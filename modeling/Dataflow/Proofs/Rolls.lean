import Dataflow.Proofs.Runs

/-!
# Rolls and records

An engine keeps a record of those subscribers alone that are on the roll of some slot, and the record
counts no more registrations than the rolls do. So what is noted as the last delivery of a subscriber
is what it was selected for last, and it has been registered ever since.
-/

namespace Dataflow

namespace Engine

/-- The records count no registration that is not on a roll, and none of them is empty. -/
structure Listed (e : Engine) : Prop where
  counted : ∀ c, ∃ slots : List Slot, slots.Nodup ∧
    e.registrations c ≤ (slots.flatMap e.subscribers).count c
  kept : ∀ c entry, e.delivered.get? c = some entry → 0 < entry.registrations

namespace Listed

variable {e e' : Engine}

/-- Whoever has a record is registered on some slot. -/
lemma registered (h : e.Listed) {c : Nat} {entry : Delivered}
    (hc : e.delivered.get? c = some entry) : ∃ s, c ∈ e.subscribers s := by
  obtain ⟨slots, -, hle⟩ := h.counted c
  have hpos := h.kept c entry hc
  unfold registrations at hle
  rw [hc] at hle
  have hcount : 0 < (slots.flatMap e.subscribers).count c := Nat.lt_of_lt_of_le hpos hle
  obtain ⟨s, -, hs⟩ := List.mem_flatMap.mp (List.count_pos_iff.mp hcount)
  exact ⟨s, hs⟩

lemma registered_of_lastOf (h : e.Listed) {c : Nat} {r : Result} (hc : e.lastOf c = some r) :
    ∃ s, c ∈ e.subscribers s := by
  obtain ⟨entry, hentry, -⟩ := Option.bind_eq_some_iff.mp hc
  exact h.registered hentry

lemma empty : ({} : Engine).Listed :=
  ⟨fun _ => ⟨[], List.nodup_nil, Nat.le_refl 0⟩, fun _ _ hc => by cases hc⟩

/-- Other tables do not matter. -/
lemma of_tables (h : e.Listed) (hs : e'.subscriptions = e.subscriptions)
    (hd : e'.delivered = e.delivered) : e'.Listed := by
  have hsub : e'.subscribers = e.subscribers := by
    funext j
    unfold subscribers
    rw [hs]
  have hreg : e'.registrations = e.registrations := by
    funext c
    unfold registrations
    rw [hd]
  exact ⟨by rw [hsub, hreg]; exact h.counted, by rw [hd]; exact h.kept⟩

lemma subscribe (h : e.Listed) (s : Slot) (d : Nat) : (e.subscribe s d).Listed := by
  refine ⟨fun c => ?_, fun c entry hc => ?_⟩
  · have hother : ∀ j, j ≠ s →
        ((e.subscribe s d).subscribers j).count c = (e.subscribers j).count c := by
      intro j hj
      rw [subscribers_subscribe, if_neg (Ne.symm hj)]
    have hhere : ((e.subscribe s d).subscribers s).count c =
        (e.subscribers s).count c + if d = c then 1 else 0 := by
      rw [subscribers_subscribe, if_pos rfl, List.count_append, List.count_singleton]
      simp
    obtain ⟨slots, hn, hle⟩ := h.counted c
    rw [registrations_subscribe]
    by_cases hs : s ∈ slots
    · have heq := Ledger.count_flatMap_of_mem hs hn hother
      exact ⟨slots, hn, by omega⟩
    · have heq := Ledger.count_flatMap_congr (c := c) fun j (hj : j ∈ slots) =>
        hother j fun he => hs (he ▸ hj)
      refine ⟨s :: slots, List.nodup_cons.mpr ⟨hs, hn⟩, ?_⟩
      rw [List.flatMap_cons, List.count_append]
      omega
  · by_cases hd : d = c
    · subst hd
      simp only [Engine.subscribe, Table.get?_insert, if_true, Option.some.injEq] at hc
      rw [← hc]
      exact Nat.succ_pos _
    · simp only [Engine.subscribe, Table.get?_insert, if_neg hd] at hc
      exact h.kept c entry hc

lemma unsubscribe (h : e.Listed) (s : Slot) (d : Nat) : (e.unsubscribe s d).Listed := by
  refine ⟨fun c => ?_, fun c entry hc => ?_⟩
  · have hother : ∀ j, j ≠ s →
        ((e.unsubscribe s d).subscribers j).count c = (e.subscribers j).count c := by
      intro j hj
      rw [subscribers_unsubscribe, if_neg (Ne.symm hj)]
    have hhere : ((e.unsubscribe s d).subscribers s).count c +
        (if d = c then (e.subscribers s).count d else 0) = (e.subscribers s).count c := by
      rw [subscribers_unsubscribe, if_pos rfl]
      by_cases hd : d = c
      · subst hd
        rw [if_pos rfl, List.count_eq_zero.mpr (by simp), Nat.zero_add]
      · rw [if_neg hd, List.count_filter (by simpa using Ne.symm hd), Nat.add_zero]
    obtain ⟨slots, hn, hle⟩ := h.counted c
    rw [registrations_unsubscribe]
    refine ⟨slots, hn, ?_⟩
    by_cases hs : s ∈ slots
    · have heq := Ledger.count_flatMap_of_mem hs hn hother
      omega
    · have heq := Ledger.count_flatMap_congr (c := c) fun j (hj : j ∈ slots) =>
        hother j fun he => hs (he ▸ hj)
      omega
  · rw [delivered_unsubscribe] at hc
    by_cases hd : d = c ∧ (e.subscriptions.get? s.node s.output).isSome
    · rw [if_pos hd, get?_release, if_pos hd.1] at hc
      obtain ⟨old, -, hnew⟩ := Option.bind_eq_some_iff.mp hc
      by_cases hz : old.registrations - (e.subscribers s).count d = 0
      · rw [if_pos hz] at hnew
        cases hnew
      · rw [if_neg hz] at hnew
        cases hnew
        exact Nat.pos_of_ne_zero hz
    · rw [if_neg hd] at hc
      exact h.kept c entry hc

lemma select (h : e.Listed) (p : Policy) (s : Slot) (r : Result) : (e.select p s r).2.Listed := by
  refine ⟨fun c => ?_, fun c entry hc => ?_⟩
  · obtain ⟨slots, hn, hle⟩ := h.counted c
    exact ⟨slots, hn, (registrations_select e p s r c).symm ▸ hle⟩
  · rw [delivered_select] at hc
    by_cases hm : c ∈ (e.select p s r).1
    · rw [if_pos hm] at hc
      obtain ⟨old, hold, rfl⟩ := Option.map_eq_some_iff.mp hc
      exact h.kept c old hold
    · rw [if_neg hm] at hc
      exact h.kept c entry hc

end Listed

end Engine

namespace Journal

variable {host : String} {c : Nat}

lemma Registered.plain {past new : List Event} (h : Registered host c past)
    (hn : ∀ e ∈ new, e.isPlain = true) : Registered host c (new ++ past) := by
  obtain ⟨s, hs⟩ := h
  refine ⟨s, enrolled_append hs fun hm => ?_⟩
  have hplain := hn _ hm
  cases hplain

lemma Recalls.plain {r : Result} {past new : List Event} (h : Recalls host c r past)
    (hn : ∀ e ∈ new, e.isPlain = true) : Recalls host c r (new ++ past) := by
  induction new with
  | nil => exact h
  | cons e new ih =>
    have hrest := ih fun x hx => hn x (List.mem_cons_of_mem e hx)
    refine ⟨h.registered.plain hn, ?_⟩
    have hnone : e.ofOffer host c = none := by
      have hplain := hn e List.mem_cons_self
      cases e <;> first | rfl | cases hplain
    rw [hnone]
    exact hrest

end Journal

namespace Ledger

open Journal

variable {b b' : Ledger}

/-- Every engine has its records in order, and what it has noted is what the history recalls. -/
structure Attested (b : Ledger) : Prop where
  listed : ∀ host, (b.engine host).Listed
  recalls : ∀ host c r, (b.engine host).lastOf c = some r → Recalls host c r b.journal

lemma Attested.plain (h : Attested b) (hp : b.Plain b') : Attested b' := by
  obtain ⟨new, hj, hn⟩ := hp.journal
  refine ⟨fun host => ?_, fun host c r hl => ?_⟩
  · obtain ⟨gates, passes, -, hg⟩ := hp.engine host
    rw [hg]
    exact (h.listed host).of_tables rfl rfl
  · obtain ⟨gates, passes, -, hg⟩ := hp.engine host
    rw [hg] at hl
    rw [hj]
    exact (h.recalls host c r hl).plain hn

/-- Whoever has a last delivery is registered, as the history tells. -/
lemma registered_of_listed (hm : Mirrors b) {host : String} (h : (b.engine host).Listed) {c : Nat}
    {r : Result} (hl : (b.engine host).lastOf c = some r) : Registered host c b.journal := by
  obtain ⟨s, hs⟩ := h.registered_of_lastOf hl
  exact ⟨s, (hm.roll host s c).mp hs⟩

/-- One engine has changed, and nobody was selected. -/
lemma Attested.set (h : Attested b) (hm : Mirrors b') {host : String} {e : Engine} {x : Event}
    (hb : ∀ i, b'.engine i = if host = i then e else b.engine i) (he : e.Listed)
    (hj : b'.journal = x :: b.journal) (hx : ∀ i c, x.ofOffer i c = none)
    (hl : ∀ c r, e.lastOf c = some r → (b.engine host).lastOf c = some r) : Attested b' := by
  have hlisted : ∀ i, (b'.engine i).Listed := by
    intro i
    rw [hb]
    by_cases hi : host = i
    · rw [if_pos hi]
      exact he
    · rw [if_neg hi]
      exact h.listed i
  refine ⟨hlisted, fun i c r hr => ?_⟩
  have hreg := registered_of_listed hm (hlisted i) hr
  have hold : Recalls i c r b.journal := by
    rw [hb] at hr
    by_cases hi : host = i
    · subst hi
      rw [if_pos rfl] at hr
      exact h.recalls host c r (hl c r hr)
    · rw [if_neg hi] at hr
      exact h.recalls i c r hr
  rw [hj] at hreg ⊢
  exact ⟨hreg, by rw [hx i c]; exact hold⟩

lemma Attested.offer (h : Attested b) (host : String) (s : Slot) (pass : Pass) (r : Result)
    (hm : Mirrors (b.offer host s pass r)) : Attested (b.offer host s pass r) := by
  have hengine : ∀ i, (b.offer host s pass r).engine i =
      if host = i then ((b.engine host).select (b.policy host) s r).2 else b.engine i := fun _ => rfl
  have hlisted : ∀ i, ((b.offer host s pass r).engine i).Listed := by
    intro i
    rw [hengine]
    by_cases hi : host = i
    · rw [if_pos hi]
      exact (h.listed host).select _ s r
    · rw [if_neg hi]
      exact h.listed i
  refine ⟨hlisted, fun i c last hl => ⟨registered_of_listed hm (hlisted i) hl, ?_⟩⟩
  rw [hengine] at hl
  by_cases hc : host = i ∧ c ∈ ((b.engine host).select (b.policy host) s r).1
  · -- The subscriber is selected, and noted with it.
    obtain ⟨rfl, hc⟩ := hc
    obtain ⟨-, entry, hentry, -⟩ := (Engine.mem_select _ _ _ _ c).mp hc
    rw [if_pos rfl, Engine.lastOf, Engine.delivered_select, if_pos hc, hentry] at hl
    simp only [Event.ofOffer, hc, and_self, if_true]
    exact Option.some.inj hl
  · simp only [Event.ofOffer, hc, if_false]
    refine h.recalls i c last ?_
    by_cases hi : host = i
    · subst hi
      have hnot : c ∉ ((b.engine host).select (b.policy host) s r).1 := fun hm => hc ⟨rfl, hm⟩
      rw [if_pos rfl, Engine.lastOf, Engine.delivered_select, if_neg hnot] at hl
      exact hl
    · rw [if_neg hi] at hl
      exact hl

lemma Attested.change (h : Attested b) (hm : Mirrors b') (hc : b.Change b') : Attested b' := by
  -- Most operations touch neither rolls nor records.
  have hkeep : ∀ (host : String) {e : Engine} {x : Event},
      (∀ i, b'.engine i = if host = i then e else b.engine i) →
      e.subscriptions = (b.engine host).subscriptions → e.delivered = (b.engine host).delivered →
      b'.journal = x :: b.journal → (∀ i c, x.ofOffer i c = none) → Attested b' :=
    fun host _ _ hb hs hd hj hx => h.set hm hb ((h.listed host).of_tables hs hd) hj hx
      fun c r hr => (lastOf_congr hd c).symm.trans hr
  cases hc with
  | nothing => exact h
  | takeOff host s _ _ => exact hkeep host (fun _ => rfl) rfl rfl rfl fun _ _ => rfl
  | land ticket d c _ _ =>
    obtain ⟨-, -, hs, hd⟩ := (b.engine d.host).land_frame d.slot ticket ⟨b.results, c⟩
    exact hkeep d.host (fun _ => rfl) hs hd rfl fun _ _ => rfl
  | enlist host n =>
    obtain ⟨-, -, hs, hd⟩ := (b.engine host).register_frame n
    exact hkeep host (fun _ => rfl) hs hd rfl fun _ _ => rfl
  | unregister host id hn =>
    obtain ⟨-, -, hs, hd⟩ := (b.engine host).unregister_frame id hn
    exact hkeep host (fun _ => rfl) hs hd rfl fun _ _ => rfl
  | clearKeys t host node keys =>
    obtain ⟨-, -, hs, hd⟩ := (b.engine host).clearAll_frame node keys
    exact hkeep host (fun _ => rfl) hs hd rfl fun _ _ => rfl
  | enrol host s d name _ =>
    exact h.set hm (fun _ => rfl) ((h.listed host).subscribe s d) rfl (fun _ _ => rfl)
      fun c r hr => (Engine.lastOf_subscribe _ s d c).symm.trans hr
  | unsubscribe host s d =>
    refine h.set hm (fun _ => rfl) ((h.listed host).unsubscribe s d) rfl (fun _ _ => rfl)
      fun c r hr => ?_
    rcases Engine.lastOf_unsubscribe (b.engine host) s d c with heq | hnone
    · rw [← heq, hr]
    · rw [hnone] at hr
      cases hr
  | offer host s pass r _ _ => exact h.offer host s pass r hm

lemma Attested.move (h : Attested b) (hm : Mirrors b) (hmove : Move b b') : Attested b' := by
  obtain ⟨m, hc, hp⟩ := hmove.change
  exact (h.change (hm.change hc) hc).plain hp

lemma Attested.moves (h : Attested b) (hs : Sound b) (hm : Moves b b') : Attested b' :=
  (hm.keep (P := fun b => Sound b ∧ Attested b)
    (fun _ _ hb hmove => ⟨hb.1.move hmove, hb.2.move hb.1.mirrors hmove⟩) ⟨hs, h⟩).2

end Ledger

namespace Scene

lemma attested_opening (s : Scene) : s.opening.ledger.Attested := by
  have he : ∀ host, s.opening.ledger.engine host = {} := s.engine_opening
  refine ⟨fun host => ?_, fun host c r hl => ?_⟩
  · rw [he]
    exact .empty
  · rw [he] at hl
    cases hl

theorem attested_of_reachable {s : Scene} {w : World} (h : World.Reachable s.opening w) :
    w.ledger.Attested :=
  s.attested_opening.moves s.sound_opening (h.goes s.sane_opening).2

end Scene

end Dataflow

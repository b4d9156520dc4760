import Dataflow.Proofs.Errands

/-!
# Registrations

Subscribers that are registered exist, and the record that an engine keeps of a subscriber lasts as
long as it is registered anywhere.
-/

namespace Dataflow

namespace Ledger

variable {b b' : Ledger}

lemma subscribers_of_plain (h : b.Plain b') (host : String) (s : Slot) :
    (b'.engine host).subscribers s = (b.engine host).subscribers s := by
  obtain ⟨gates, passes, -, hg⟩ := h.engine host
  rw [hg]
  rfl

/-- One engine has changed, and its roll of subscribers has not. -/
lemma subscribers_of_set {i : String} {e : Engine}
    (hb : ∀ k, b'.engine k = if i = k then e else b.engine k)
    (he : e.subscriptions = (b.engine i).subscriptions) (host : String) (s : Slot) :
    (b'.engine host).subscribers s = (b.engine host).subscribers s := by
  rw [hb]
  by_cases hi : i = host
  · subst hi
    rw [if_pos rfl]
    unfold Engine.subscribers
    rw [he]
  · rw [if_neg hi]

lemma subscribers_enrol (b : Ledger) (i : String) (j : Slot) (d : Nat) (name : String)
    (host : String) (s : Slot) : ((b.enrol i j d name).engine host).subscribers s =
      if i = host ∧ j = s then (b.engine host).subscribers s ++ [d]
      else (b.engine host).subscribers s := by
  show (if i = host then (b.engine i).subscribe j d else b.engine host).subscribers s = _
  by_cases hi : i = host
  · subst hi
    rw [if_pos rfl, Engine.subscribers_subscribe]
    by_cases hj : j = s
    · subst hj
      rw [if_pos rfl, if_pos ⟨rfl, rfl⟩]
    · rw [if_neg hj, if_neg fun h => hj h.2]
  · rw [if_neg hi, if_neg fun h => hi h.1]

/-- Whoever is registered was so before, or else subscribes. -/
lemma Move.subscribers (h : Move b b') {host : String} {s : Slot} {c : Nat}
    (hc : c ∈ (b'.engine host).subscribers s) : c ∈ (b.engine host).subscribers s ∨
      ∃ name, c < b.subscribers ∧ b' = b.subscribe host s c name := by
  have hplain : b.Plain b' → c ∈ (b.engine host).subscribers s := fun hp =>
    subscribers_of_plain hp host s ▸ hc
  cases h with
  | quiet hq => exact .inl (hplain hq.plain)
  | takeOff i j _ _ =>
    rw [subscribers_of_set (b := b) (i := i) (e := (b.engine i).takeOff j b.flights.length)
      (fun _ => rfl) rfl] at hc
    exact .inl hc
  | begin i j ticket _ => exact .inl (hplain (plain_log rfl))
  | land ticket d content _ _ =>
    rw [subscribers_of_set (b := b) (i := d.host) (fun _ => rfl)
      ((b.engine d.host).land_frame d.slot ticket ⟨b.results, content⟩).2.2.1] at hc
    exact .inl hc
  | register i n =>
    rw [subscribers_of_plain (plain_register b i n), subscribers_of_set (b := b) (i := i)
      (fun _ => rfl) ((b.engine i).register_frame n).2.2.1] at hc
    exact .inl hc
  | unregister i id hn =>
    rw [subscribers_of_set (b := b) (i := i) (fun _ => rfl)
      ((b.engine i).unregister_frame id hn).2.2.1] at hc
    exact .inl hc
  | subscribe i j d name hd =>
    rw [subscribers_of_plain (plain_subscribe b i j d name), subscribers_enrol] at hc
    by_cases hij : i = host ∧ j = s
    · obtain ⟨rfl, rfl⟩ := hij
      rw [if_pos ⟨rfl, rfl⟩] at hc
      rcases List.mem_append.mp hc with hc | hc
      · exact .inl hc
      · rw [List.mem_singleton] at hc
        subst hc
        exact .inr ⟨name, hd, rfl⟩
    · rw [if_neg hij] at hc
      exact .inl hc
  | unsubscribe i j d =>
    have hc' : c ∈ (if i = host then (b.engine i).unsubscribe j d
      else b.engine host).subscribers s := hc
    by_cases hi : i = host
    · subst hi
      rw [if_pos rfl, Engine.subscribers_unsubscribe] at hc'
      by_cases hj : j = s
      · subst hj
        rw [if_pos rfl] at hc'
        exact .inl (List.mem_filter.mp hc').1
      · rw [if_neg hj] at hc'
        exact .inl hc'
    · rw [if_neg hi] at hc'
      exact .inl hc'
  | start task _ _ _ => exact .inl (hplain (plain_spawn b task))
  | invalidate t d i node keys _ _ _ _ _ =>
    rw [subscribers_of_set (b := b) (i := i) (fun _ => rfl)
      ((b.engine i).clearAll_frame node keys).2.2.1] at hc
    exact .inl hc
  | enter t i x _ _ => exact .inl (hplain (plain_enter b t i x))
  | look t i x pass _ _ => exact .inl (hplain (plain_look b t i x pass))
  | advance t i x p _ _ => exact .inl (hplain (plain_setErrand b t i _))
  | select t i x pass clears r _ _ _ _ =>
    rw [subscribers_of_set (b := b) (i := x.host)
      (e := ((b.engine x.host).select (b.policy x.host) x.slot r).2) (fun _ => rfl) rfl] at hc
    exact .inl hc
  | call t i x pass r d rest callback _ _ =>
    exact .inl (hplain ((plain_log rfl).trans (plain_setErrand _ t i _)))
  | leave t i x pass r _ _ => exact .inl (hplain (plain_setErrand b t i none))
  | drop t i x _ _ _ => exact .inl (hplain (plain_drop b t i x))
  | panic source text _ _ _ => exact .inl (hplain (plain_log rfl))
  | finish t d how engine extra he => exact .inl (hplain he.plain)

/-- Whoever is registered or about to be called is there. -/
structure Known (b : Ledger) : Prop where
  subscribers : ∀ host s c, c ∈ (b.engine host).subscribers s → c < b.subscribers
  calling : ∀ t i x pass r rest, b.errand? t i = some x → x.phase = .calling pass r rest →
    ∀ c ∈ rest, c < b.subscribers

lemma Known.move (h : Known b) (hm : Move b b') : Known b' := by
  have hle := hm.frame.2.2
  constructor
  · intro host s c hc
    rcases hm.subscribers hc with hc | ⟨name, hlt, -⟩
    · exact Nat.lt_of_lt_of_le (h.subscribers host s c hc) hle
    · exact Nat.lt_of_lt_of_le hlt hle
  · intro t i x pass r rest hx hphase c hc
    have hopen : x.phase.isOpen = false := by rw [hphase]; rfl
    cases hm.came hx with
    | kept hx => exact Nat.lt_of_lt_of_le (h.calling t i x pass r rest hx hphase c hc) hle
    | fresh hf =>
      rw [hf] at hopen
      cases hopen
    | entered y _ _ hxp _ | looked y pass' _ _ hxp _ =>
      subst hxp
      cases hphase
    | advanced y p _ ha hxp _ =>
      subst hxp
      rw [ha.isOpen.2] at hopen
      cases hopen
    | selected y pass' clears r' _ _ _ _ hxp _ =>
      subst hxp
      cases hphase
      exact Nat.lt_of_lt_of_le
        (h.subscribers y.host y.slot c ((Engine.mem_select _ _ _ _ c).mp hc).1) hle
    | called y pass' r' c' rest' callback hy hyp hxp _ =>
      subst hxp
      cases hphase
      exact Nat.lt_of_lt_of_le
        (h.calling t i y pass r (c' :: rest) hy hyp c (List.mem_cons_of_mem c' hc)) hle

/-- The record of a subscriber counts all its registrations. -/
def Tallied (b : Ledger) : Prop :=
  ∀ host c (slots : List Slot), slots.Nodup →
    (slots.flatMap (b.engine host).subscribers).count c ≤ (b.engine host).registrations c

lemma count_flatMap_congr {f g : Slot → List Nat} {c : Nat} {l : List Slot}
    (h : ∀ s ∈ l, (f s).count c = (g s).count c) :
    (l.flatMap f).count c = (l.flatMap g).count c := by
  induction l with
  | nil => rfl
  | cons s l ih =>
    rw [List.flatMap_cons, List.flatMap_cons, List.count_append, List.count_append,
      h s List.mem_cons_self, ih fun j hj => h j (List.mem_cons_of_mem s hj)]

/-- One slot apart, the two count the same. -/
lemma count_flatMap_of_mem {f g : Slot → List Nat} {c : Nat} {s : Slot} {slots : List Slot}
    (hs : s ∈ slots) (hn : slots.Nodup) (h : ∀ j, j ≠ s → (f j).count c = (g j).count c) :
    (slots.flatMap f).count c + (g s).count c = (slots.flatMap g).count c + (f s).count c := by
  induction slots with
  | nil => cases hs
  | cons j slots ih =>
    rw [List.nodup_cons] at hn
    rw [List.flatMap_cons, List.flatMap_cons, List.count_append, List.count_append]
    rcases List.mem_cons.mp hs with rfl | hs
    · have heq := count_flatMap_congr (f := f) (g := g) (c := c) (l := slots) fun j hj =>
        h j fun he => hn.1 (he ▸ hj)
      omega
    · have hj : j ≠ s := fun he => hn.1 (he ▸ hs)
      have := ih hs hn.2
      rw [h j hj]
      omega

lemma tallied_subscribe {e : Engine} (h : ∀ c (slots : List Slot), slots.Nodup →
    (slots.flatMap e.subscribers).count c ≤ e.registrations c) (s : Slot) (d c : Nat)
    (slots : List Slot) (hn : slots.Nodup) :
    (slots.flatMap (e.subscribe s d).subscribers).count c ≤ (e.subscribe s d).registrations c := by
  have hother : ∀ j, j ≠ s → ((e.subscribe s d).subscribers j).count c = (e.subscribers j).count c := by
    intro j hj
    rw [Engine.subscribers_subscribe, if_neg (Ne.symm hj)]
  have hold := h c slots hn
  rw [Engine.registrations_subscribe]
  by_cases hs : s ∈ slots
  · have heq := count_flatMap_of_mem hs hn hother
    rw [Engine.subscribers_subscribe, if_pos rfl, List.count_append, List.count_singleton] at heq
    by_cases hd : d = c
    · simp [hd] at heq ⊢
      omega
    · simp [hd] at heq ⊢
      omega
  · rw [count_flatMap_congr fun j hj => hother j fun he => hs (he ▸ hj)]
    omega

lemma tallied_unsubscribe {e : Engine} (h : ∀ c (slots : List Slot), slots.Nodup →
    (slots.flatMap e.subscribers).count c ≤ e.registrations c) (s : Slot) (d c : Nat)
    (slots : List Slot) (hn : slots.Nodup) :
    (slots.flatMap (e.unsubscribe s d).subscribers).count c ≤
      (e.unsubscribe s d).registrations c := by
  have hother : ∀ j, j ≠ s →
      ((e.unsubscribe s d).subscribers j).count c = (e.subscribers j).count c := by
    intro j hj
    rw [Engine.subscribers_unsubscribe, if_neg (Ne.symm hj)]
  have hhere : ((e.unsubscribe s d).subscribers s).count c =
      if d = c then 0 else (e.subscribers s).count c := by
    rw [Engine.subscribers_unsubscribe, if_pos rfl]
    by_cases hd : d = c
    · rw [if_pos hd, List.count_eq_zero]
      simp [hd]
    · rw [if_neg hd, List.count_filter (by simpa using Ne.symm hd)]
  rw [Engine.registrations_unsubscribe]
  by_cases hs : s ∈ slots
  · have heq := count_flatMap_of_mem hs hn hother
    have hold := h c slots hn
    rw [hhere] at heq
    by_cases hd : d = c
    · subst hd
      simp at heq ⊢
      omega
    · simp [hd] at heq ⊢
      omega
  · have hold := h c (s :: slots) (List.nodup_cons.mpr ⟨hs, hn⟩)
    rw [List.flatMap_cons, List.count_append] at hold
    rw [count_flatMap_congr fun j hj => hother j fun he => hs (he ▸ hj)]
    by_cases hd : d = c
    · subst hd
      simp
      omega
    · simp [hd]
      omega

lemma Tallied.set (h : Tallied b) {host : String} {e : Engine}
    (hb : ∀ i, b'.engine i = if host = i then e else b.engine i)
    (he : ∀ c (slots : List Slot), slots.Nodup →
      (slots.flatMap e.subscribers).count c ≤ e.registrations c) : Tallied b' := by
  intro i c slots hn
  rw [hb]
  by_cases hi : host = i
  · rw [if_pos hi]
    exact he c slots hn
  · rw [if_neg hi]
    exact h i c slots hn

/-- The roll of subscribers and the records of them are as they were. -/
lemma Tallied.keep (h : Tallied b) (host : String) {e : Engine}
    (hs : e.subscriptions = (b.engine host).subscriptions)
    (hd : e.delivered = (b.engine host).delivered) (c : Nat) (slots : List Slot)
    (hn : slots.Nodup) : (slots.flatMap e.subscribers).count c ≤ e.registrations c := by
  have hsub : e.subscribers = (b.engine host).subscribers := by
    funext j
    unfold Engine.subscribers
    rw [hs]
  have hreg : e.registrations c = (b.engine host).registrations c := by
    unfold Engine.registrations
    rw [hd]
  rw [hsub, hreg]
  exact h host c slots hn

lemma Tallied.plain (h : Tallied b) (hp : b.Plain b') : Tallied b' := by
  intro host c slots hn
  obtain ⟨gates, passes, -, hg⟩ := hp.engine host
  rw [hg]
  exact h host c slots hn

lemma Tallied.change (h : Tallied b) (hc : b.Change b') : Tallied b' := by
  cases hc with
  | nothing => exact h
  | takeOff host s _ _ => exact h.set (fun _ => rfl) (h.keep host rfl rfl)
  | land ticket d c _ _ =>
    obtain ⟨-, -, hs, hd⟩ := (b.engine d.host).land_frame d.slot ticket ⟨b.results, c⟩
    exact h.set (fun _ => rfl) (h.keep d.host hs hd)
  | enlist host n =>
    obtain ⟨-, -, hs, hd⟩ := (b.engine host).register_frame n
    exact h.set (fun _ => rfl) (h.keep host hs hd)
  | unregister host id hn =>
    obtain ⟨-, -, hs, hd⟩ := (b.engine host).unregister_frame id hn
    exact h.set (fun _ => rfl) (h.keep host hs hd)
  | enrol host s c name _ => exact h.set (fun _ => rfl) (tallied_subscribe (h host) s c)
  | unsubscribe host s c => exact h.set (fun _ => rfl) (tallied_unsubscribe (h host) s c)
  | clearKeys t host node keys =>
    obtain ⟨-, -, hs, hd⟩ := (b.engine host).clearAll_frame node keys
    exact h.set (fun _ => rfl) (h.keep host hs hd)
  | offer host s pass r _ _ =>
    refine h.set (fun _ => rfl) fun c slots hn => ?_
    rw [Engine.registrations_select]
    exact h host c slots hn

lemma Tallied.move (h : Tallied b) (hm : Move b b') : Tallied b' := by
  obtain ⟨m, hc, hp⟩ := hm.change
  exact (h.change hc).plain hp

lemma Tallied.pos (h : Tallied b) {host : String} {s : Slot} {c : Nat}
    (hc : c ∈ (b.engine host).subscribers s) : 0 < (b.engine host).registrations c := by
  have hle := h host c [s] (by simp)
  have hpos := List.count_pos_iff.mpr hc
  rw [List.flatMap_cons, List.flatMap_nil, List.append_nil] at hle
  omega

end Ledger

end Dataflow

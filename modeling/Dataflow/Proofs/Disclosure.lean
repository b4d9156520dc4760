import Dataflow.Proofs.Strides

/-!
# What subscribers of several slots are told

One record is kept of a subscriber, of the last result that it was given from any of its slots, and an
emission passes by whom the record says to have received the same. An emission that has come to its end
has called all that it selected, and so a subscriber has received what is cached for the slot from that
slot, or else the same from another one. Under the identity policy no two slots have the same result.
-/

namespace Dataflow

namespace Event

/-- The result that the subscriber is called with from this slot. -/
def ofCallFrom (host : String) (s : Slot) (c : Nat) : Event → Option Result
  | .called h j d _ r => if h = host ∧ j = s ∧ d = c then some r else none
  | _ => none

lemma ofCallFrom_eq_some {host : String} {s : Slot} {c : Nat} {e : Event} {r : Result} :
    e.ofCallFrom host s c = some r ↔ ∃ callback, e = .called host s c callback r := by
  cases e with
  | called h j d callback r' =>
    by_cases hc : h = host ∧ j = s ∧ d = c
    · obtain ⟨rfl, rfl, rfl⟩ := hc
      simp [ofCallFrom]
    · simp only [ofCallFrom, if_neg hc]
      constructor
      · rintro ⟨⟩
      · rintro ⟨callback', h⟩
        cases h
        exact absurd ⟨rfl, rfl, rfl⟩ hc
  | _ => simp [ofCallFrom]

lemma ofCall_of_ofCallFrom {host : String} {s : Slot} {c : Nat} {e : Event}
    (h : e.ofCall host c = none) : e.ofCallFrom host s c = none := by
  cases hf : e.ofCallFrom host s c with
  | none => rfl
  | some r =>
    obtain ⟨callback, rfl⟩ := ofCallFrom_eq_some.mp hf
    simp [ofCall] at h

/-- An emission is over when nobody is to be called any more. -/
def Settled (past : List Event) : Event → Prop
  | .left _ _ _ => ∀ host c, Journal.owed host c past = none
  | _ => True

lemma settled_of_isMilestone (past : List Event) (e : Event) (h : e.isMilestone = false) :
    e.Settled past := by
  cases e with
  | left host s pass => cases h
  | _ => exact True.intro

end Event

namespace Journal

/-- The result that a subscriber was called with last from this slot. -/
def heardFrom (host : String) (s : Slot) (c : Nat) (l : List Event) : Option Result :=
  l.findSome? (Event.ofCallFrom host s c)

/-- The last call of a subscriber was with this result, from the slot `j`. -/
def HeardLast (host : String) (c : Nat) (j : Slot) (r : Result) (l : List Event) : Prop :=
  ∃ callback newer older, l = newer ++ .called host j c callback r :: older ∧
    ∀ e ∈ newer, e.ofCall host c = none

lemma heardLast_of_heard {host : String} {c : Nat} {r : Result} {l : List Event}
    (h : heard host c l = some r) : ∃ j, HeardLast host c j r l := by
  obtain ⟨newer, e, older, rfl, he, hn⟩ := List.findSome?_eq_some_iff.mp h
  obtain ⟨j, callback, rfl⟩ := Event.ofCall_eq_some.mp he
  exact ⟨j, callback, newer, older, rfl, hn⟩

lemma HeardLast.heardFrom {host : String} {c : Nat} {j : Slot} {r : Result} {l : List Event}
    (h : HeardLast host c j r l) : heardFrom host j c l = some r := by
  obtain ⟨callback, newer, older, rfl, hn⟩ := h
  exact List.findSome?_eq_some_iff.mpr ⟨newer, _, older, rfl,
    Event.ofCallFrom_eq_some.mpr ⟨callback, rfl⟩, fun e he => Event.ofCall_of_ofCallFrom (hn e he)⟩

lemma HeardLast.mem {host : String} {c : Nat} {j : Slot} {r : Result} {l : List Event}
    (h : HeardLast host c j r l) : ∃ callback, .called host j c callback r ∈ l := by
  obtain ⟨callback, newer, older, rfl, -⟩ := h
  exact ⟨callback, List.mem_append_right newer List.mem_cons_self⟩

/-- Whoever was called from the slot with one result only since then was called with it last, if at
all. -/
lemma heardFrom_append {host : String} {s : Slot} {c : Nat} {r : Result} {after base : List Event}
    (h : ∀ callback r', .called host s c callback r' ∈ after → r' = r) :
    heardFrom host s c (after ++ base) = some r ∨
      heardFrom host s c (after ++ base) = heardFrom host s c base ∧
        ∀ callback r', .called host s c callback r' ∉ after := by
  unfold heardFrom
  rw [List.findSome?_append]
  cases hn : after.findSome? (Event.ofCallFrom host s c) with
  | some r' =>
    obtain ⟨newer, e, older, rfl, he, -⟩ := List.findSome?_eq_some_iff.mp hn
    obtain ⟨callback, rfl⟩ := Event.ofCallFrom_eq_some.mp he
    rw [h callback r' (List.mem_append_right newer List.mem_cons_self)]
    exact .inl rfl
  | none =>
    refine .inr ⟨rfl, fun callback r' hm => ?_⟩
    have hnone := List.findSome?_eq_none_iff.mp hn _ hm
    simp [Event.ofCallFrom] at hnone

end Journal

open Journal

namespace Lawful

variable {policy : String → Policy} {host : String} {s : Slot} {c : Nat}

/-- Until the slot is cleared again, whoever is called from it is called with what was delivered. -/
lemma called_since {after past : List Event} {pass : Pass} {r : Result} {picked : List Nat}
    (h : Lawful policy (after ++ .delivering host s pass r picked :: past))
    (hc : ∀ e ∈ after, e.clears host s = false) {callback : String} {r' : Result}
    (hm : .called host s c callback r' ∈ after) : r' = r := by
  obtain ⟨later, mid, rfl⟩ := List.append_of_mem hm
  rw [List.append_assoc, List.cons_append] at h
  have howed : owed host c (mid ++ .delivering host s pass r picked :: past) = some (s, r') := h.fits
  have hbase := h.tail.2
  obtain ⟨gap, pass', picked', before, hsplit, -, hgap⟩ := offer_of_owed howed
  rcases split_cases hsplit with ⟨m, rfl, hpast⟩ | ⟨-, hd, -⟩ | ⟨m, rfl, -⟩
  · -- Nobody was owed anything when the slot was delivered from.
    have hnone : owed host c past = none := hbase.fits.2.1 host c
    have hsome : owed host c past = some (s, r') := by
      have hall := latest_append (Event.ofDebt host c) (mid ++ [.delivering host s pass r picked]) past
        fun e he => hgap e (by simpa using Or.imp_right .inl (by simpa using he))
      rw [← howed, owed, ← hall, List.append_assoc, List.singleton_append]
      rfl
    rw [hnone] at hsome
    cases hsome
  · cases hd
    rfl
  · -- A later delivery was of what was cached all the time.
    rw [List.append_assoc, List.cons_append] at hbase
    have hlater : cached host s (m ++ .delivering host s pass r picked :: past) = some r' :=
      hbase.fits.1
    have hdelivered := hbase.tail.2
    have hkept : cached host s (.delivering host s pass r picked :: past) = some r :=
      hdelivered.tail.cached_keep rfl hdelivered.fits.1
    have hstill := cached_append hdelivered (fun e he => hc e (by simp [he])) hkept
    rw [hlater] at hstill
    exact Option.some.inj hstill

end Lawful

namespace World

variable {w : World}

/-- When an emission is over, all that it has selected have been called. -/
theorem settled_of_reachable {sc : Scene} (h : Reachable sc.opening w) :
    Throughout Event.Settled w.journal := by
  refine Scene.keeps (P := fun w => Throughout Event.Settled w.journal) h ⟨⟩
    (fun w w' _ hj _ _ ht _ => ht.toUneventful.throughout Event.settled_of_isMilestone hj)
    fun w hr hj => ?_
  refine (Scene.stride_of_reachable hr).throughout Event.settled_of_isMilestone
    (fun _ _ _ _ => True.intro) (fun v e hv hm _ => ?_) hj
  cases hm with
  | @left e pass r hf hp hpr hsame =>
    have hs := Scene.sane_of_reachable hr
    obtain ⟨-, t, hrun, he⟩ := emission?_of_party hs.poised.steady hp
    have hx := errand?_of_emission? he
    have hphase : e.errand.phase = .calling pass r [] := by
      show e.progress.phase = _
      rw [hpr]
      rfl
    intro host c
    rw [hsame]
    cases howed : owed host c w.journal with
    | none => rfl
    | some p =>
      obtain ⟨t', i, x, pass', rest, hx', -, hcalling, hc⟩ :=
        (hs.sound.receipts.owed host c p.1 p.2).mp howed
      obtain ⟨rfl, rfl⟩ := hs.sound.receipts.sole _ _ _ _ _ _ hx' (by rw [hcalling]; rfl) hx
        (by rw [hphase]; rfl)
      rw [hx] at hx'
      cases hx'
      rw [hphase] at hcalling
      cases hcalling
      cases hc
  | _ => exact True.intro

/-- When an emission is over and the slot was not cleared since, whoever was registered was called last
from this slot with what is cached, or was passed by for the same result of another slot. -/
theorem finished_emission_told {sc : Scene} (h : Reachable sc.opening w) (hu : Unharmed w.journal)
    {later earlier : List Event} {host : String} {s : Slot} {c : Nat} {pass : Pass} {r : Result}
    {picked : List Nat} (hj : w.journal = later ++ .delivering host s pass r picked :: earlier)
    (hl : .left host s pass ∈ later) (he : enrolled host s c earlier = true)
    (hc : ∀ e ∈ later, e.clears host s = false) :
    (w.engine host).cached s = some r ∧
      ((∃ last, heardFrom host s c w.journal = some last ∧ (w.policy host).same last r = true) ∨
        w.policy host ≠ .identity ∧ c ∉ picked ∧ ∃ j last, j ≠ s ∧ HeardLast host c j last earlier ∧
          (w.policy host).same last r = true) := by
  have hs := Scene.sane_of_reachable h
  have hlaw : Lawful w.policy w.journal := hs.sound.lawful
  have hp := hlaw.not_panicked hu
  have hsettled := settled_of_reachable h
  have hcached : (w.engine host).cached s = cached host s w.journal := hs.sound.mirrors.cached host s
  have hdel : .delivering host s pass r picked ∈ w.journal := by
    rw [hj]
    exact List.mem_append_right later List.mem_cons_self
  rw [hj] at hlaw hp hsettled
  have hfits := hlaw.fits
  have hbase := hlaw.tail
  have hcalls : heardFrom host s c w.journal = some r ∨
      heardFrom host s c w.journal = heardFrom host s c earlier ∧
        ∀ callback r', .called host s c callback r' ∉ later := by
    rw [hj]
    exact heardFrom_append fun callback r' => hlaw.called_since hc
  refine ⟨?_, ?_⟩
  · rw [hcached, hj]
    exact hlaw.cached_append hc (hbase.cached_keep rfl hfits.1)
  obtain ⟨-, howed, -, hoffers, -⟩ := hfits
  by_cases hm : c ∈ picked
  · -- It was called before the emission was over.
    obtain ⟨after, mid, rfl⟩ := List.append_of_mem hl
    rw [List.append_assoc, List.cons_append] at hlaw hp hsettled
    have hnone : owed host c (mid ++ .delivering host s pass r picked :: earlier) = none :=
      hsettled.fits host c
    have hquiet : ∀ text, .panicked .subscriber text ∉ mid := fun text hx =>
      hp ⟨.subscriber, text, by simp [hx]⟩
    rcases hlaw.tail.2.owed_or_called hm hquiet with howes | ⟨callback, hcall⟩
    · rw [hnone] at howes
      cases howes
    · refine .inl ⟨r, hcalls.resolve_right fun hno => ?_, Policy.same_self _ r⟩
      exact hno.2 callback r (by simp [hcall])
  · obtain ⟨last, hlast, hsame⟩ := (hoffers c he).resolve_left hm
    have hheard : heard host c earlier = some last := by
      rw [← hlast]
      refine hbase.2.heard_eq_promised (fun hx => hp (hx.mono fun e hm => ?_)) (howed host c)
      exact List.mem_append_right later (List.mem_cons_of_mem _ hm)
    obtain ⟨j, hheard⟩ := heardLast_of_heard hheard
    by_cases hjs : j = s
    · subst hjs
      refine .inl (hcalls.elim (fun h => ⟨r, h, Policy.same_self _ r⟩) fun h => ⟨last, ?_, hsame⟩)
      rw [h.1]
      exact hheard.heardFrom
    · refine .inr ⟨fun hi => hjs ?_, hm, j, last, hjs, hheard, hsame⟩
      -- One result does not land for two slots.
      have hid : last.id = r.id := by
        rw [hi] at hsame
        simpa [Policy.same] using hsame
      obtain ⟨callback, hcall⟩ := hheard.mem
      have hcall' : .called host j c callback last ∈ w.journal := by
        rw [hj]
        exact List.mem_append_right later (List.mem_cons_of_mem _ hcall)
      obtain ⟨ticket, kept, hland⟩ := hs.landed_of_called hcall'
      obtain ⟨ticket', kept', hland'⟩ := hs.landed_of_delivering hdel
      rw [← hj] at hlaw
      cases hlaw.landed_once hland hland' (.inr hid)
      rfl

/-- Nothing has panicked, and the event at this place is a delivery to a slot that had the subscriber,
by an emission that is over, and since which the slot was not cleared. -/
def finishedSince (w : World) (host : String) (s : Slot) (c place : Nat) : Bool :=
  w.journal.all (fun | .panicked _ _ => false | _ => true) &&
    (w.journal.take place).all (fun e => !e.clears host s) &&
    enrolled host s c (w.journal.drop (place + 1)) &&
    (w.journal[place]?).any fun
      | .delivering h j pass _ _ => h == host && j == s &&
        (w.journal.take place).any fun
          | .left h' j' pass' => h' == host && j' == s && pass' == pass
          | _ => false
      | _ => false

lemma of_finishedSince {host : String} {s : Slot} {c place : Nat}
    (h : w.finishedSince host s c place = true) : Unharmed w.journal ∧
      ∃ later pass r picked earlier, w.journal = later ++ .delivering host s pass r picked :: earlier ∧
        .left host s pass ∈ later ∧ enrolled host s c earlier = true ∧
        ∀ e ∈ later, e.clears host s = false := by
  simp only [finishedSince, Bool.and_eq_true, List.all_eq_true, Option.any_eq_true] at h
  obtain ⟨⟨⟨hcalm, hclears⟩, he⟩, x, hx, hplace⟩ := h
  refine ⟨fun text => ⟨fun hm => ?_, fun hm => ?_⟩, ?_⟩
  · cases hcalm _ hm
  · cases hcalm _ hm
  have hsplit := split_of_place hx
  cases x with
  | delivering h j pass r picked =>
    simp only [Bool.and_eq_true, beq_iff_eq, List.any_eq_true] at hplace
    obtain ⟨⟨rfl, rfl⟩, y, hy, hleft⟩ := hplace
    cases y with
    | left h' j' pass' =>
      simp only [Bool.and_eq_true, beq_iff_eq] at hleft
      obtain ⟨⟨rfl, rfl⟩, rfl⟩ := hleft
      exact ⟨_, pass', r, picked, _, hsplit, hy, he, fun e hm => by simpa using hclears e hm⟩
    | _ => cases hleft
  | _ => cases hplace

/-- A subscriber of two slots whose nodes hand over these payloads. -/
def listening (a b : Payload) : List (Action × Nat) := [
  (.register "p" (heldNode "n" ["a", "b"]) "n", 0),
  (.subscribe "p" "first" ⟨"n", "a"⟩ "c", 30),
  (.resolve .first (some (.value a)), 30),
  (.subscribe "p" "second" ⟨"n", "b"⟩ "c", 30),
  (.resolve .first (some (.value b)), 30)]

/-- Under the identity policy the subscriber is called from both, though the payloads are the same. -/
theorem finished_emission_told_listening : ∃ w r last, Reachable ({} : Scene).opening w ∧
    w.policy "p" = .identity ∧ (w.engine "p").cached ⟨"n", "b"⟩ = some r ∧
    heardFrom "p" ⟨"n", "b"⟩ 0 w.journal = some last ∧ (w.policy "p").same last r = true := by
  have hfacts : (({} : Scene).opening.rehearse (listening (.json .null) (.json .null))).any (fun w =>
      w.finishedSince "p" ⟨"n", "b"⟩ 0 3) = true := by decide +kernel
  obtain ⟨w, hw, hfinished⟩ := (Option.any_eq_true _ _).mp hfacts
  obtain ⟨hu, later, pass, r, picked, earlier, hj, hl, he, hc⟩ := of_finishedSince hfinished
  have hreach := reachable_rehearse .refl hw
  have hpolicy : w.policy "p" = .identity :=
    congrFun (hreach.goes ({} : Scene).sane_opening).2.frame.2 "p"
  obtain ⟨hcached, htold⟩ := finished_emission_told hreach hu hj hl he hc
  obtain ⟨last, hlast, hsame⟩ := htold.resolve_right fun h => h.1 hpolicy
  exact ⟨w, r, last, hreach, hpolicy, hcached, hlast, hsame⟩

/-- A pipeline that compares JSON values. -/
def comparing : Scene where
  setups := ⟨[("p", { policy := .json })]⟩

/-- Where values are compared, a subscriber may never be called from one of its slots. -/
theorem finished_emission_untold : ∃ w later pass r picked earlier,
    Reachable comparing.opening w ∧ w.policy "p" = .json ∧ Unharmed w.journal ∧
    w.journal = later ++ .delivering "p" ⟨"n", "b"⟩ pass r picked :: earlier ∧
    .left "p" ⟨"n", "b"⟩ pass ∈ later ∧ enrolled "p" ⟨"n", "b"⟩ 0 earlier = true ∧
    .unsubscribed "p" ⟨"n", "b"⟩ 0 ∉ later ∧ (∀ e ∈ later, e.clears "p" ⟨"n", "b"⟩ = false) ∧
    (w.engine "p").cached ⟨"n", "b"⟩ = some r ∧ heardFrom "p" ⟨"n", "b"⟩ 0 w.journal = none := by
  have hfacts : (comparing.opening.rehearse (listening (.json .null) (.json .null))).any (fun w =>
      w.finishedSince "p" ⟨"n", "b"⟩ 0 2 && (heardFrom "p" ⟨"n", "b"⟩ 0 w.journal).isNone &&
        w.journal.all fun e => e.ofRoll "p" ⟨"n", "b"⟩ 0 != some false) = true := by decide +kernel
  obtain ⟨w, hw, hall⟩ := (Option.any_eq_true _ _).mp hfacts
  rw [Bool.and_eq_true, Bool.and_eq_true, List.all_eq_true] at hall
  obtain ⟨⟨hfinished, hnone⟩, hstays⟩ := hall
  obtain ⟨hu, later, pass, r, picked, earlier, hj, hl, he, hc⟩ := of_finishedSince hfinished
  have hreach := reachable_rehearse .refl hw
  have hs := Scene.sane_of_reachable hreach
  have hlaw : Lawful w.policy w.journal := hs.sound.lawful
  have hcached : (w.engine "p").cached ⟨"n", "b"⟩ = cached "p" ⟨"n", "b"⟩ w.journal :=
    hs.sound.mirrors.cached "p" ⟨"n", "b"⟩
  rw [hj] at hlaw hcached
  have hdelivered := hlaw.cached_append hc (hlaw.tail.cached_keep rfl hlaw.fits.1)
  refine ⟨w, later, pass, r, picked, earlier, hreach,
    congrFun (hreach.goes comparing.sane_opening).2.frame.2 "p", hu, hj, hl, he, fun hm => ?_, hc,
    hcached.trans hdelivered, Option.isNone_iff_eq_none.mp hnone⟩
  have hm' : .unsubscribed "p" ⟨"n", "b"⟩ 0 ∈ w.journal := by
    rw [hj]
    exact List.mem_append_left _ hm
  simpa [Event.ofRoll] using hstays _ hm'

end World

end Dataflow

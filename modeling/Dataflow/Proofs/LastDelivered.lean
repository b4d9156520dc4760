import Dataflow.Proofs.Notifications
import Dataflow.Proofs.Rolls

/-!
# What the record of the last delivery tells

The record of a subscriber is made when it is selected, for all who are selected at once, and the
calls are made after that. So it tells the truth as long as no subscriber panics: where one does, those
behind it are noted without having been called.
-/

namespace Dataflow

namespace Event

def isOutcry : Event → Bool
  | .panicked .subscriber _ => true
  | _ => false

lemma isOutcry_iff {e : Event} : e.isOutcry = true ↔ ∃ text, e = .panicked .subscriber text := by
  constructor
  · intro h
    cases e with
    | panicked source text =>
      cases source with
      | subscriber => exact ⟨text, rfl⟩
      | _ => cases h
    | _ => cases h
  · rintro ⟨text, rfl⟩
    rfl

/-- The slot is delivered from to others than the subscriber. -/
def passesBy (host : String) (s : Slot) (c : Nat) : Event → Bool
  | .delivering h j _ _ picked => h == host && j == s && !picked.isEmpty && !picked.contains c
  | _ => false

lemma of_passesBy {host : String} {s : Slot} {c : Nat} {e : Event}
    (h : e.passesBy host s c = true) :
    ∃ pass r picked, e = .delivering host s pass r picked ∧ picked ≠ [] ∧ c ∉ picked := by
  cases e with
  | delivering i j pass r picked =>
    simp only [passesBy, Bool.and_eq_true, beq_iff_eq, Bool.not_eq_true'] at h
    obtain ⟨⟨⟨rfl, rfl⟩, hne⟩, hnot⟩ := h
    refine ⟨pass, r, picked, rfl, ?_, by simpa using hnot⟩
    rintro rfl
    cases hne
  | _ => cases h

end Event

namespace Journal

variable {host : String} {c : Nat} {r : Result}

/-- Within `l` the subscriber was called once, with this result from this slot. -/
def CalledOnce (host : String) (s : Slot) (c : Nat) (r : Result) (l : List Event) : Prop :=
  ∃ later callback earlier, l = later ++ .called host s c callback r :: earlier ∧
    ∀ e ∈ later ++ earlier, e.ofCall host c = none

/-- Within `l` the subscriber was not called. A subscriber has panicked before anything else was
delivered. -/
def PassedOver (host : String) (c : Nat) (l : List Event) : Prop :=
  (∀ e ∈ l, e.ofCall host c = none) ∧
    ∃ text later earlier, l = later ++ .panicked .subscriber text :: earlier ∧
      ∀ host' s' pass' r' picked', .delivering host' s' pass' r' picked' ∉ earlier

lemma CalledOnce.cons {s : Slot} {l : List Event} {e : Event} (h : CalledOnce host s c r l)
    (he : e.ofCall host c = none) : CalledOnce host s c r (e :: l) := by
  obtain ⟨later, callback, earlier, rfl, hn⟩ := h
  refine ⟨e :: later, callback, earlier, rfl, fun x hx => ?_⟩
  rcases List.mem_cons.mp hx with rfl | hx
  · exact he
  · exact hn x hx

lemma PassedOver.cons {l : List Event} {e : Event} (h : PassedOver host c l)
    (he : e.ofCall host c = none) : PassedOver host c (e :: l) := by
  obtain ⟨hn, text, later, earlier, rfl, hd⟩ := h
  exact ⟨List.forall_mem_cons.mpr ⟨he, hn⟩, text, e :: later, earlier, rfl, hd⟩

/-- What is recalled was delivered at some time, and the subscriber has been registered ever since. -/
lemma Recalls.selected {l : List Event} (h : Recalls host c r l) :
    ∃ new s pass picked old, l = new ++ .delivering host s pass r picked :: old ∧ c ∈ picked ∧
      (∀ e ∈ new, e.ofOffer host c = none) ∧
      Remains host c (.delivering host s pass r picked :: old) new := by
  induction l with
  | nil => cases h
  | cons e l ih =>
    obtain ⟨hreg, hrest⟩ := h
    cases ho : e.ofOffer host c with
    | some p =>
      rw [ho] at hrest
      obtain ⟨s, r'⟩ := p
      obtain ⟨pass, picked, rfl, hm⟩ := Event.ofOffer_eq_some.mp ho
      cases hrest
      refine ⟨[], s, pass, picked, l, rfl, hm, by simp, fun later before hnil => ?_⟩
      rw [(List.nil_eq_append_iff.mp hnil).2]
      exact hreg
    | none =>
      rw [ho] at hrest
      obtain ⟨new, s, pass, picked, old, rfl, hm, hn, hr⟩ := ih hrest
      refine ⟨e :: new, s, pass, picked, old, rfl, hm, List.forall_mem_cons.mpr ⟨ho, hn⟩, ?_⟩
      intro later before hsplit
      cases later with
      | nil =>
        rw [List.nil_append] at hsplit
        rw [← hsplit]
        exact hreg
      | cons x later => exact hr later before (List.cons_eq_cons.mp hsplit).2

end Journal

open Journal

namespace Lawful

variable {policy : String → Policy} {host : String} {c : Nat}

/-- Nothing is delivered while somebody is owed a call. -/
lemma not_delivering {l : List Event} {s s' : Slot} {host' : String} {pass : Pass} {r r' : Result}
    {picked : List Nat} (h : Lawful policy (.delivering host' s' pass r' picked :: l)) :
    owed host c l ≠ some (s, r) := by
  rw [h.1.2.1 host c]
  rintro ⟨⟩

/-- A delivery is abandoned in the midst of it only when a subscriber has panicked just before. -/
lemma panicked_of_abandoned {l : List Event} {host' : String} {s' : Slot} {pass : Pass}
    {p : Slot × Result} (h : Lawful policy (.abandoned host' s' pass :: l))
    (ho : owed host c l = some p) :
    ∃ text older, l = .panicked .subscriber text :: older := by
  rcases h.1 with hnone | ⟨source, text, older, rfl⟩
  · rw [hnone host c] at ho
    cases ho
  · have hsource : source = .subscriber := by
      refine Classical.byContradiction fun hs => ?_
      have hnone : owed host c older = none := h.2.1.2.2 hs host c
      rw [owed_cons] at ho
      rw [show owed host c older = some p from ho] at hnone
      cases hnone
    rw [hsource]
    exact ⟨text, older, rfl⟩

/-- What becomes of a subscriber that was selected and is not selected again: it is still to be called,
or it was called with what it was selected for and with nothing else, or somebody panicked before its
turn came. -/
lemma fate_of_selected {new old : List Event} {s : Slot} {pass : Pass} {r : Result}
    {picked : List Nat}
    (h : Lawful policy (new ++ .delivering host s pass r picked :: old)) (hm : c ∈ picked)
    (hn : ∀ e ∈ new, e.ofOffer host c = none) :
    owed host c (new ++ .delivering host s pass r picked :: old) = some (s, r) ∧
        (∀ e ∈ new, e.ofCall host c = none) ∧
        (∀ host' s' pass' r' picked', .delivering host' s' pass' r' picked' ∉ new) ∨
      owed host c (new ++ .delivering host s pass r picked :: old) = none ∧
        (CalledOnce host s c r new ∨ PassedOver host c new) := by
  induction new with
  | nil => exact .inl ⟨owed_delivering hm s pass r old, by simp, by simp⟩
  | cons e new ih =>
    rw [List.cons_append] at h ⊢
    have hrest := ih h.2 fun x hx => hn x (List.mem_cons_of_mem e hx)
    rcases e.call_cases host c with
      ⟨s', callback, r', rfl⟩ | ⟨s', pass', r', picked', rfl, hm'⟩ | ⟨h', s', pass', rfl⟩ | hi
    · -- Only what is owed is called.
      have howed : owed host c _ = some (s', r') := h.1
      rcases hrest with ⟨ho, hcalls, -⟩ | ⟨ho, -⟩
      · rw [ho] at howed
        cases howed
        exact .inr ⟨owed_called .., .inl ⟨[], callback, new, rfl, hcalls⟩⟩
      · rw [ho] at howed
        cases howed
    · have hnone := hn _ List.mem_cons_self
      simp [Event.ofOffer, hm'] at hnone
    · refine .inr ⟨owed_abandoned .., ?_⟩
      rcases hrest with ⟨ho, hcalls, hd⟩ | ⟨-, hc | hp⟩
      · -- The panic is behind the delivery.
        obtain ⟨text, older, hpanic⟩ := h.panicked_of_abandoned ho
        obtain ⟨earlier, rfl⟩ : ∃ earlier, new = .panicked .subscriber text :: earlier := by
          cases new with
          | nil => cases hpanic
          | cons x new => exact ⟨new, by rw [(List.cons_eq_cons.mp hpanic).1]⟩
        exact .inr ⟨List.forall_mem_cons.mpr ⟨rfl, hcalls⟩, text, [.abandoned h' s' pass'], earlier,
          rfl, fun i j p q k hx => hd i j p q k (List.mem_cons_of_mem _ hx)⟩
      · exact .inl (hc.cons rfl)
      · exact .inr (hp.cons rfl)
    · rw [(replays_cons hi _).2.2]
      rcases hrest with ⟨ho, hcalls, hd⟩ | ⟨ho, hc | hp⟩
      · refine .inl ⟨ho, List.forall_mem_cons.mpr ⟨hi.1, hcalls⟩, fun i j p q k hx => ?_⟩
        rcases List.mem_cons.mp hx with rfl | hx
        · exact h.not_delivering ho
        · exact hd i j p q k hx
      · exact .inr ⟨ho, .inl (hc.cons hi.1)⟩
      · exact .inr ⟨ho, .inr (hp.cons hi.1)⟩

/-- To whom nothing is owed, the result that is recalled was told, or it was lost by a panic. -/
lemma told_or_lost {l : List Event} (h : Lawful policy l) {host : String} {c : Nat} {r : Result}
    (ho : owed host c l = none) (hr : Recalls host c r l) :
    ∃ s pass picked new old, l = new ++ .delivering host s pass r picked :: old ∧ c ∈ picked ∧
      Remains host c (.delivering host s pass r picked :: old) new ∧
      (∀ e ∈ new, e.ofOffer host c = none) ∧
      (CalledOnce host s c r new ∨ PassedOver host c new) := by
  obtain ⟨new, s, pass, picked, old, rfl, hm, hn, hrem⟩ := hr.selected
  refine ⟨s, pass, picked, new, old, rfl, hm, hrem, hn, ?_⟩
  rcases h.fate_of_selected hm hn with ⟨hs, -⟩ | ⟨-, hfate⟩
  · rw [ho] at hs
    cases hs
  · exact hfate

end Lawful

namespace World

variable {w : World}

/-- What an engine has noted for a subscriber was delivered to it and called exactly once, or never, when
another subscriber has panicked in that very delivery. -/
theorem last_delivery_told_or_lost {sc : Scene} (h : Reachable sc.opening w) (hs : w.Silent)
    (host : String) (c : Nat) (r : Result) (hl : (w.engine host).lastOf c = some r) :
    ∃ s pass picked new old, w.journal = new ++ .delivering host s pass r picked :: old ∧
      c ∈ picked ∧ Remains host c (.delivering host s pass r picked :: old) new ∧
      (∀ e ∈ new, e.ofOffer host c = none) ∧
      (CalledOnce host s c r new ∨ PassedOver host c new) := by
  have hsane := Scene.sane_of_reachable h
  have hlaw : Lawful w.policy w.journal := hsane.sound.lawful
  have hrecalls : Recalls host c r w.journal := (Scene.attested_of_reachable h).recalls host c r hl
  exact hlaw.told_or_lost (hsane.owed_none hs host c) hrecalls

/-- The first of two subscribers panics when it is called. -/
def outcry : Scene where
  scripts := ⟨[("d", [[.panic "boom"]])]⟩

/-- A third one subscribes in the end. -/
def crying : List (Action × Nat) := [
  (.register "p" (heldNode "n" ["o"]) "n", 0),
  (.subscribe "p" "first" ⟨"n", "o"⟩ "d", 30),
  (.subscribe "p" "second" ⟨"n", "o"⟩ "c", 30),
  (.resolve .first (some (.value (.text "a"))), 60),
  (.subscribe "p" "third" ⟨"n", "o"⟩ "e", 60)]

/-- Nothing is left to do, and a result is noted for a subscriber that was never called. -/
def mistells (w : World) (host : String) (c : Nat) : Bool :=
  w.settled && ((w.engine host).lastOf c).isSome &&
    w.journal.all fun e => (e.ofCall host c).isNone

lemma of_mistells {host : String} {c : Nat} (h : w.mistells host c = true) :
    w.focus = .idle ∧ (∃ r, (w.engine host).lastOf c = some r) ∧
      ∀ e ∈ w.journal, e.ofCall host c = none := by
  simp only [mistells, Bool.and_eq_true, List.all_eq_true] at h
  obtain ⟨⟨hidle, hlast⟩, hcalls⟩ := h
  exact ⟨idle_of_settled hidle, Option.isSome_iff_exists.mp hlast,
    fun e he => Option.isNone_iff_eq_none.mp (hcalls e he)⟩

/-- The second subscriber was selected along with the one that panicked. -/
theorem last_delivery_told_or_lost_crying : ∃ w r, Reachable outcry.opening w ∧ w.Silent ∧
    (w.engine "p").lastOf 1 = some r ∧
    ∃ s pass picked new old, w.journal = new ++ .delivering "p" s pass r picked :: old ∧
      1 ∈ picked ∧ Remains "p" 1 (.delivering "p" s pass r picked :: old) new ∧
      (∀ e ∈ new, e.ofOffer "p" 1 = none) ∧
      (CalledOnce "p" s 1 r new ∨ PassedOver "p" 1 new) := by
  have hfacts : (outcry.opening.rehearse crying).any (fun w => w.mistells "p" 1) = true := by
    decide +kernel
  obtain ⟨w, hw, hm⟩ := (Option.any_eq_true _ _).mp hfacts
  obtain ⟨hidle, ⟨r, hr⟩, -⟩ := of_mistells hm
  have hreach := reachable_rehearse .refl hw
  have hsilent := (Scene.sane_of_reachable hreach).silent hidle
  exact ⟨w, r, hreach, hsilent, hr, last_delivery_told_or_lost hreach hsilent "p" 1 r hr⟩

/-- After a subscriber has panicked, another one that was never called has a result noted, and the next
delivery passes it by. -/
theorem last_delivery_never_made : ∃ w r later text earlier, Reachable outcry.opening w ∧ w.Silent ∧
    (w.engine "p").lastOf 1 = some r ∧ (∀ e ∈ w.journal, e.ofCall "p" 1 = none) ∧
    w.journal = later ++ .panicked .subscriber text :: earlier ∧
    1 ∈ (w.engine "p").subscribers ⟨"n", "o"⟩ ∧
    ∃ pass r' picked, .delivering "p" ⟨"n", "o"⟩ pass r' picked ∈ later ∧ picked ≠ [] ∧
      1 ∉ picked := by
  have hfacts : (outcry.opening.rehearse crying).any (fun w => w.mistells "p" 1 &&
      (w.journal[13]?).any Event.isOutcry &&
      ((w.engine "p").subscribers ⟨"n", "o"⟩).contains 1 &&
      (w.journal.take 13).any (Event.passesBy "p" ⟨"n", "o"⟩ 1)) = true := by decide +kernel
  obtain ⟨w, hw, hall⟩ := (Option.any_eq_true _ _).mp hfacts
  simp only [Bool.and_eq_true] at hall
  obtain ⟨⟨⟨hm, hpanic⟩, hroll⟩, hpass⟩ := hall
  obtain ⟨hidle, ⟨r, hr⟩, hcalls⟩ := of_mistells hm
  obtain ⟨x, hx, hx'⟩ := (Option.any_eq_true _ _).mp hpanic
  obtain ⟨text, rfl⟩ := Event.isOutcry_iff.mp hx'
  obtain ⟨e, he, he'⟩ := List.any_eq_true.mp hpass
  obtain ⟨pass, r', picked, rfl, hne, hnot⟩ := Event.of_passesBy he'
  have hreach := reachable_rehearse .refl hw
  exact ⟨w, r, w.journal.take 13, text, w.journal.drop 14, hreach,
    (Scene.sane_of_reachable hreach).silent hidle, hr, hcalls, split_of_place hx,
    List.contains_iff_mem.mp hroll, pass, r', picked, he, hne, hnot⟩

end World

end Dataflow

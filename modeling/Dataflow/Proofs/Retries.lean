import Dataflow.Proofs.Runs

/-!
# Retries

An emission that is about to deliver and finds nothing cached knows that its slot was cleared since it
looked, and starts again. Every look after the first is paid for by a clearing of the slot.
-/

namespace Dataflow

/-- The emission with this pass looks for a cached result, at first or again. -/
def Event.isLook (host : String) (s : Slot) (pass : Pass) : Event → Bool
  | .looked h j p => h == host && j == s && p == pass
  | _ => false

lemma Event.isLook_iff {host : String} {s : Slot} {pass : Pass} {e : Event} :
    e.isLook host s pass = true ↔ e = .looked host s pass := by
  cases e with
  | looked h j p => simp [isLook, and_assoc]
  | _ => simp [isLook]

def Progress.isReady : Progress → Bool
  | .ready _ _ => true
  | _ => false

/-- Between two looks of one emission its slot was cleared. -/
lemma Lawful.looks_le {policy : String → Policy} {later during earlier : List Event}
    (h : Lawful policy (later ++ (during ++ earlier))) (host : String) (s : Slot) (pass : Pass) :
    during.countP (Event.isLook host s pass) ≤ during.countP (Event.clears host s) + 1 := by
  refine countP_le_of_between fun later' x mid y earlier' hsplit hx hy => ?_
  obtain rfl := Event.isLook_iff.mp hx
  obtain rfl := Event.isLook_iff.mp hy
  have hd : during ++ earlier =
      later' ++ .looked host s pass :: (mid ++ .looked host s pass :: (earlier' ++ earlier)) := by
    simp [hsplit]
  have hlaw := h.tail
  rw [hd] at hlaw
  exact hlaw.fits mid _ rfl

namespace World

variable {w : World}

/-- An emission that is about to deliver has looked, and where nothing is cached any more its slot was
cleared since it looked last. -/
lemma Sane.cleared (h : w.Sane) {t i : Nat} {e : Emission} {pass : Pass} {clears : Nat}
    (he : w.emission? t i = some e) (hp : e.progress = .ready pass clears)
    (hc : (w.engine e.host).cached e.slot = none) :
    ∃ later earlier, w.journal = later ++ .looked e.host e.slot pass :: earlier ∧
      .looked e.host e.slot pass ∉ later ∧ ∃ x ∈ later, x.clears e.host e.slot = true := by
  have hx := errand?_of_emission? he
  have hph : e.errand.phase = .ready pass clears := by
    show e.progress.phase = _
    rw [hp]
    rfl
  have hpass : e.errand.phase.pass? = some pass := by
    rw [hph]
    rfl
  have hlooked : .looked e.host e.slot pass ∈ w.journal := by
    rcases h.sound.watchful.seen t i e.errand pass hx hpass with hl | hm
    · rw [hph] at hl
      cases hl
    · exact hm
  obtain ⟨later, earlier, hj, hfirst⟩ := List.eq_append_cons_of_mem hlooked
  refine ⟨later, earlier, hj, hfirst, ?_⟩
  rcases h.sound.watchful.watched t i e.errand pass later earlier hx hpass hj with hclear | hcov
  · exact hclear
  · rw [hph] at hcov
    exact absurd ((h.sound.mirrors.cached e.host e.slot).symm.trans hc) hcov

/-- Besides, the engine has counted that. -/
lemma Sane.counted (h : w.Sane) {t i : Nat} {e : Emission} {pass : Pass} {clears : Nat}
    (he : w.emission? t i = some e) (hp : e.progress = .ready pass clears)
    (hc : (w.engine e.host).cached e.slot = none) : clears < (w.engine e.host).clears := by
  have hx := errand?_of_emission? he
  have ht := h.sound.timely t i e.errand hx
  unfold Ledger.OnTime at ht
  have hph : e.errand.phase = .ready pass clears := by
    show e.progress.phase = _
    rw [hp]
    rfl
  rw [hph] at ht
  exact Nat.lt_of_le_of_ne ht.1 fun heq => ht.2 heq hc

/-- An emission that finds nothing cached when it is about to deliver has had its slot cleared since it
looked, so it looks once more often than the slot is cleared at most. -/
theorem retries_are_paid_for {s : Scene} {w : World} (h : Reachable s.opening w) :
    (∀ t i e pass clears, w.emission? t i = some e → e.progress = .ready pass clears →
      (w.engine e.host).cached e.slot = none →
      clears < (w.engine e.host).clears ∧ ∃ later earlier,
        w.journal = later ++ .looked e.host e.slot pass :: earlier ∧
        .looked e.host e.slot pass ∉ later ∧ ∃ x ∈ later, x.clears e.host e.slot = true) ∧
    (∀ text, .panicked .engine text ∉ w.journal) ∧
    ∀ later during earlier host slot pass, w.journal = later ++ (during ++ earlier) →
      during.countP (Event.isLook host slot pass) ≤ during.countP (Event.clears host slot) + 1 := by
  have hs := Scene.sane_of_reachable h
  have hlaw : Lawful w.policy w.journal := hs.sound.lawful
  refine ⟨?_, ?_, ?_⟩
  · intro t i e pass clears he hp hc
    exact ⟨hs.counted he hp hc, hs.cleared he hp hc⟩
  · intro text hm
    obtain ⟨later, earlier, hj⟩ := List.append_of_mem hm
    rw [hj] at hlaw
    exact hlaw.fits.1 rfl
  · intro later during earlier host slot pass hj
    rw [hj] at hlaw
    exact hlaw.looks_le host slot pass

/-- A slot is cleared while its first computation is under way, which comes to its end all the same. -/
def retrying : List (Action × Nat) := [
  (.register "p" (heldNode "n" ["o"]) "n", 0),
  (.subscribe "p" "s" ⟨"n", "o"⟩ "c", 30),
  (.invalidate "p" "again" "n" none, 60),
  (.resolve .first (some (.value (.text "old"))), 8)]

/-- The first emission is about to deliver and finds nothing cached; two steps later it has looked a
second time. -/
theorem retries_are_paid_for_cleared : ∃ w e pass clears,
    Reachable ({} : Scene).opening w ∧ w.emission? 0 0 = some e ∧
    e.progress = .ready pass clears ∧ (w.engine e.host).cached e.slot = none ∧
    clears < (w.engine e.host).clears ∧
    (∃ later earlier, w.journal = later ++ .looked e.host e.slot pass :: earlier ∧
      .looked e.host e.slot pass ∉ later ∧ ∃ x ∈ later, x.clears e.host e.slot = true) ∧
    (w.run 2).journal.countP (Event.isLook "p" ⟨"n", "o"⟩ ⟨0, 0⟩) = 2 ∧
    (w.run 2).journal.countP (Event.isLook "p" ⟨"n", "o"⟩ ⟨0, 0⟩) ≤
      (w.run 2).journal.countP (Event.clears "p" ⟨"n", "o"⟩) + 1 := by
  have hready : (({} : Scene).opening.rehearse retrying).any (fun w =>
      (w.emission? 0 0).any (fun e =>
        e.progress.isReady &&
          ((w.engine e.host).cached e.slot).isNone) &&
      (w.run 2).journal.countP (Event.isLook "p" ⟨"n", "o"⟩ ⟨0, 0⟩) == 2) = true := by
    decide +kernel
  obtain ⟨w, hw, hall⟩ := (Option.any_eq_true _ _).mp hready
  rw [Bool.and_eq_true] at hall
  obtain ⟨e, he, hprogress⟩ := (Option.any_eq_true _ _).mp hall.1
  rw [Bool.and_eq_true] at hprogress
  have hc := Option.isNone_iff_eq_none.mp hprogress.2
  have hreach := reachable_rehearse .refl hw
  obtain ⟨pass, clears, hp⟩ : ∃ pass clears, e.progress = .ready pass clears := by
    cases hp : e.progress with
    | ready pass clears => exact ⟨pass, clears, rfl⟩
    | _ =>
      rw [hp] at hprogress
      cases hprogress.1
  obtain ⟨hlt, hlook⟩ := (retries_are_paid_for hreach).1 0 0 e pass clears he hp hc
  exact ⟨w, e, pass, clears, hreach, he, hp, hc, hlt, hlook, eq_of_beq hall.2,
    (retries_are_paid_for (hreach.run 2)).2.2 [] (w.run 2).journal [] "p" ⟨"n", "o"⟩ ⟨0, 0⟩
      (by rw [List.nil_append, List.append_nil])⟩

end World

end Dataflow

import Dataflow.Proofs.Origins

/-!
# Single flights

Between two clearings of a slot its node is asked for it once at most, on behalf of all who want the
result. Whoever waits for that computation, or finds later what it left in the cache, gets the same.
-/

namespace Dataflow

/-- A node is asked for the slot on behalf of all who wait for it. -/
def Event.isBeginning (host : String) (s : Slot) : Event → Bool
  | .begun h j ticket => h == host && j == s && ticket.isSome
  | _ => false

lemma Event.isBeginning_iff {host : String} {s : Slot} {e : Event} :
    e.isBeginning host s = true ↔ ∃ ticket, e = .begun host s (some ticket) := by
  cases e with
  | begun h j ticket => cases ticket <;> simp [isBeginning]
  | _ => simp [isBeginning]

open Journal

namespace Lawful

variable {policy : String → Policy} {host : String} {s : Slot}

/-- Before a computation of the slot takes off, the one before it is cleared. -/
lemma cleared_of_takenOff {mid earlier : List Event} {ticket ticket' : Nat}
    (h : Lawful policy (.takenOff host s ticket' :: (mid ++ .takenOff host s ticket :: earlier))) :
    ∃ e ∈ mid, e.clears host s = true := by
  refine Classical.byContradiction fun hn => ?_
  have hclear : ∀ e ∈ mid, e.clears host s = false := fun e he =>
    Bool.eq_false_iff.mpr fun hc => hn ⟨e, he, hc⟩
  obtain ⟨hcached, hflying, -⟩ := h.1
  rcases h.2.flying_or_landed hclear with hf | ⟨r, hc, -⟩
  · rw [hflying] at hf
    cases hf
  · rw [hcached] at hc
    cases hc

/-- Each beginning follows its own departure at once, so that the slot was cleared between any two of
them. -/
lemma cleared_of_begun {mid earlier : List Event} {ticket ticket' : Nat}
    (h : Lawful policy (.begun host s (some ticket') ::
      (mid ++ .begun host s (some ticket) :: earlier))) : ∃ e ∈ mid, e.clears host s = true := by
  obtain ⟨older, holder⟩ := h.1 ticket' rfl
  obtain ⟨oldest, rfl⟩ := h.2.tail.1 ticket rfl
  cases mid with
  | nil => cases holder
  | cons e mid =>
    obtain ⟨rfl, -⟩ := List.cons_eq_cons.mp holder
    have hsplit : mid ++ .begun host s (some ticket) :: .takenOff host s ticket :: oldest =
        (mid ++ [.begun host s (some ticket)]) ++ .takenOff host s ticket :: oldest := by simp
    have hlaw := h.2
    rw [List.cons_append, hsplit] at hlaw
    obtain ⟨x, hx, hc⟩ := hlaw.cleared_of_takenOff
    rcases List.mem_append.mp hx with hx | hx
    · exact ⟨x, List.mem_cons_of_mem _ hx, hc⟩
    · rw [List.mem_singleton.mp hx] at hc
      cases hc

/-- The node is asked for the slot at most once more often than the slot is cleared. -/
lemma begun_le {later during earlier : List Event}
    (h : Lawful policy (later ++ (during ++ earlier))) (host : String) (s : Slot) :
    during.countP (Event.isBeginning host s) ≤ during.countP (Event.clears host s) + 1 := by
  refine countP_le_of_between fun later' x mid y earlier' hsplit hx hy => ?_
  obtain ⟨ticket', rfl⟩ := Event.isBeginning_iff.mp hx
  obtain ⟨ticket, rfl⟩ := Event.isBeginning_iff.mp hy
  have hd : during ++ earlier = later' ++ (.begun host s (some ticket') ::
      (mid ++ .begun host s (some ticket) :: (earlier' ++ earlier))) := by
    simp [hsplit]
  have hlaw := h.tail
  rw [hd] at hlaw
  exact hlaw.tail.cleared_of_begun

end Lawful

namespace World

variable {w w' : World}

/-- What somebody is given in this moment who wants the result of the slot, and by which computation:
the one that was waited for, or the one that filled the cache. -/
inductive Obtains (w : World) (host : String) (slot : Slot) (ticket : Nat) (r : Result) : Prop where
  | answered (f : Flight) : w.focus = .answer r → w.party.awaits = some ticket →
      w.flights[ticket]? = some f → f.work.host = host → f.work.slot = slot →
      Obtains w host slot ticket r
  | cached : (w.engine host).cached slot = some r → .landed host slot ticket r true ∈ w.journal →
      Obtains w host slot ticket r

/-- The computation has landed with what is given. -/
lemma Sane.landed_of_obtains (h : w.Sane) {host : String} {slot : Slot} {ticket : Nat} {r : Result}
    (ho : w.Obtains host slot ticket r) : ∃ kept, .landed host slot ticket r kept ∈ w.journal := by
  cases ho with
  | cached _ hm => exact ⟨true, hm⟩
  | answered f hf ha hfl hhost hslot =>
    have haim := h.poised.aimed
    rw [hf] at haim
    obtain ⟨-, ticket', f', ha', hfl', hst⟩ := haim
    rw [ha] at ha'
    cases ha'
    rw [hfl] at hfl'
    cases hfl'
    have hl : f.departure.landed = some r := by
      unfold Flight.departure
      rw [hst]
      rfl
    obtain ⟨kept, hm⟩ := h.sound.logged.landed ticket f.departure r (flights_ledger hfl) hl
    have hm' : .landed f.work.host f.work.slot ticket r kept ∈ w.journal := hm
    rw [hhost, hslot] at hm'
    exact ⟨kept, hm'⟩

/-- No slot is both cached and in flight, and between two clearings it is computed once at most. Two
requests obtain one result exactly when one computation serves them. -/
theorem single_flight {s : Scene} {w : World} (h : Reachable s.opening w) :
    (∀ host slot, (w.engine host).cached slot = none ∨ (w.engine host).flying slot = none) ∧
    (∀ later during earlier host slot, w.journal = later ++ (during ++ earlier) →
      (∀ e ∈ during, e.clears host slot = false) →
      during.countP (Event.isBeginning host slot) ≤ 1) ∧
    (∀ later earlier host slot ticket, w.journal = later ++ .takenOff host slot ticket :: earlier →
      (∀ e ∈ later, e.clears host slot = false) →
      (w.engine host).flying slot = some ticket ∨
        ∃ r, (w.engine host).cached slot = some r ∧ .landed host slot ticket r true ∈ later) ∧
    ∀ w' host slot ticket ticket' r r', Reachable w w' → w.Obtains host slot ticket r →
      w'.Obtains host slot ticket' r' → (r = r' ↔ ticket = ticket') := by
  have hs := Scene.sane_of_reachable h
  have hlaw : Lawful w.policy w.journal := hs.sound.lawful
  have hflying : ∀ host slot, (w.engine host).flying slot = Journal.flying host slot w.journal :=
    hs.sound.mirrors.flying
  have hcached : ∀ host slot, (w.engine host).cached slot = Journal.cached host slot w.journal :=
    hs.sound.mirrors.cached
  refine ⟨?_, ?_, ?_, ?_⟩
  · intro host slot
    rw [hcached, hflying]
    cases hf : Journal.flying host slot w.journal with
    | none => exact .inr rfl
    | some ticket => exact .inl (hlaw.cached_none_of_flying hf)
  · intro later during earlier host slot hj hn
    rw [hj] at hlaw
    have hnone : during.countP (Event.clears host slot) = 0 :=
      List.countP_eq_zero.mpr fun e he => by rw [hn e he]; rintro ⟨⟩
    have hle := hlaw.begun_le host slot
    rw [hnone] at hle
    exact hle
  · intro later earlier host slot ticket hj hn
    rw [hflying, hcached, hj]
    rw [hj] at hlaw
    exact hlaw.flying_or_landed hn
  · intro w' host slot ticket ticket' r r' hr ho ho'
    obtain ⟨hs', hmoves⟩ := hr.goes hs
    have hlaw' : Lawful w'.policy w'.journal := hs'.sound.lawful
    obtain ⟨new, hgrow⟩ := hmoves.grows
    have hj : w'.journal = new ++ w.journal := hgrow
    obtain ⟨kept, hm⟩ := hs.landed_of_obtains ho
    obtain ⟨kept', hm'⟩ := hs'.landed_of_obtains ho'
    have hold : .landed host slot ticket r kept ∈ w'.journal := by
      rw [hj]
      exact List.mem_append_right _ hm
    constructor
    · rintro rfl
      cases hlaw'.landed_once hold hm' (.inr rfl)
      rfl
    · rintro rfl
      cases hlaw'.landed_once hold hm' (.inl rfl)
      rfl

/-- Whether somebody is given what the computation that was waited for has come to. -/
def isAnswered (w : World) (host : String) (slot : Slot) (ticket : Nat) : Bool :=
  (match w.focus with | .answer _ => true | _ => false) && w.party.awaits == some ticket &&
    (w.flights[ticket]?).any fun f => f.work.host == host && f.work.slot == slot

lemma obtains_of_isAnswered {host : String} {slot : Slot} {ticket : Nat}
    (h : w.isAnswered host slot ticket = true) : ∃ r, w.Obtains host slot ticket r := by
  unfold isAnswered at h
  rw [Bool.and_eq_true, Bool.and_eq_true] at h
  obtain ⟨⟨hf, ha⟩, hany⟩ := h
  obtain ⟨f, hfl, hwork⟩ := (Option.any_eq_true _ _).mp hany
  rw [Bool.and_eq_true] at hwork
  cases hr : w.focus with
  | answer r =>
    exact ⟨r, .answered f hr (eq_of_beq ha) hfl (eq_of_beq hwork.1) (eq_of_beq hwork.2)⟩
  | _ =>
    rw [hr] at hf
    cases hf

/-- Two tasks that ask for one slot, and a subscription in between. -/
def sharing : List (Action × Nat) := [
  (.register "p" (heldNode "n" ["o"]) "n", 0),
  (.output "p" "first" ⟨"n", "o"⟩, 30),
  (.subscribe "p" "s" ⟨"n", "o"⟩ "c", 30),
  (.output "p" "second" ⟨"n", "o"⟩, 30),
  (.resolve .first (some (.value (.text "a"))), 6)]

/-- The node was asked once, and both tasks are given what came of it. -/
theorem single_flight_sharing : ∃ w r r', Reachable ({} : Scene).opening w ∧
    w.Obtains "p" ⟨"n", "o"⟩ 0 r ∧ (w.run 15).Obtains "p" ⟨"n", "o"⟩ 0 r' ∧ r = r' ∧
    (w.run 15).journal.countP (Event.isBeginning "p" ⟨"n", "o"⟩) = 1 ∧
    (∀ e ∈ (w.run 15).journal, e.clears "p" ⟨"n", "o"⟩ = false) ∧
    (w.run 15).journal.countP (Event.isBeginning "p" ⟨"n", "o"⟩) ≤ 1 := by
  have hfacts : (({} : Scene).opening.rehearse sharing).any (fun w =>
      w.isAnswered "p" ⟨"n", "o"⟩ 0 && (w.run 15).isAnswered "p" ⟨"n", "o"⟩ 0 &&
        (w.run 15).journal.countP (Event.isBeginning "p" ⟨"n", "o"⟩) == 1 &&
        (w.run 15).journal.all fun e => !e.clears "p" ⟨"n", "o"⟩) = true := by decide +kernel
  obtain ⟨w, hw, hall⟩ := (Option.any_eq_true _ _).mp hfacts
  rw [Bool.and_eq_true, Bool.and_eq_true, Bool.and_eq_true] at hall
  obtain ⟨⟨⟨hanswered, hanswered'⟩, hcount⟩, hclear⟩ := hall
  obtain ⟨r, hr⟩ := obtains_of_isAnswered hanswered
  obtain ⟨r', hr'⟩ := obtains_of_isAnswered hanswered'
  have hreach := reachable_rehearse .refl hw
  have hn : ∀ e ∈ (w.run 15).journal, e.clears "p" ⟨"n", "o"⟩ = false := fun e he => by
    have hne := List.all_eq_true.mp hclear e he
    rw [Bool.not_eq_true'] at hne
    exact hne
  exact ⟨w, r, r', hreach, hr, hr',
    ((single_flight hreach).2.2.2 (w.run 15) "p" _ 0 0 r r' (Reachable.refl.run 15) hr hr').mpr rfl,
    eq_of_beq hcount, hn,
    (single_flight (hreach.run 15)).2.1 [] (w.run 15).journal [] "p" ⟨"n", "o"⟩
      (by rw [List.nil_append, List.append_nil]) hn⟩

end World

end Dataflow

import Dataflow.Proofs.Runs

/-!
# Unsubscribing

Whoever is taken off a slot is not selected there any more. A delivery that is going on has selected
its subscribers before, so that one of them may be called once more, by that delivery alone.
-/

namespace Dataflow

namespace Event

/-- The subscriber is called with a result of the slot. -/
def isCallOf (host : String) (s : Slot) (c : Nat) : Event → Bool
  | .called h j d _ _ => h == host && j == s && d == c
  | _ => false

lemma isCallOf_iff {host : String} {s : Slot} {c : Nat} {e : Event} :
    e.isCallOf host s c = true ↔ ∃ callback r, e = .called host s c callback r := by
  cases e with
  | called h j d callback r =>
    simp only [isCallOf, Bool.and_eq_true, beq_iff_eq]
    constructor
    · rintro ⟨⟨rfl, rfl⟩, rfl⟩
      exact ⟨callback, r, rfl⟩
    · rintro ⟨callback', r', he⟩
      cases he
      exact ⟨⟨rfl, rfl⟩, rfl⟩
  | _ => simp [isCallOf]

def isUnsubscription (host : String) (s : Slot) (c : Nat) : Event → Bool
  | .unsubscribed h j d => h == host && j == s && d == c
  | _ => false

lemma eq_of_isUnsubscription {host : String} {s : Slot} {c : Nat} {e : Event}
    (h : e.isUnsubscription host s c = true) : e = .unsubscribed host s c := by
  cases e with
  | unsubscribed i j d =>
    simp only [isUnsubscription, Bool.and_eq_true, beq_iff_eq] at h
    obtain ⟨⟨rfl, rfl⟩, rfl⟩ := h
    rfl
  | _ => cases h

def isSubscription : Event → Bool
  | .subscribed _ _ _ _ => true
  | _ => false

end Event

namespace Journal

variable {host : String} {s : Slot} {c : Nat}

/-- Whoever was taken off a slot is not registered there until the next subscription. -/
lemma not_enrolled_of_unsubscribed {later : List Event} (earlier : List Event)
    (hn : ∀ name, .subscribed host s c name ∉ later) :
    enrolled host s c (later ++ .unsubscribed host s c :: earlier) = false := by
  induction later with
  | nil => simp [enrolled_cons, Event.ofRoll]
  | cons e later ih =>
    rw [List.cons_append, enrolled_cons, ih fun name hm => hn name (List.mem_cons_of_mem e hm)]
    cases hr : e.ofRoll host s c with
    | none => rfl
    | some b =>
      rcases Event.ofRoll_eq_some hr with ⟨-, name, rfl⟩ | ⟨rfl, -⟩
      · exact absurd List.mem_cons_self (hn name)
      · rfl

/-- The subscriber was selected for the result by a delivery, and since then it was not called and
nothing else was delivered. -/
def Selected (host : String) (s : Slot) (c : Nat) (r : Result) (l : List Event) : Prop :=
  ∃ gap pass picked before, l = gap ++ .delivering host s pass r picked :: before ∧ c ∈ picked ∧
    (∀ j callback r', .called host j c callback r' ∉ gap) ∧
    ∀ host' j pass' r' picked', .delivering host' j pass' r' picked' ∉ gap

end Journal

open Journal

namespace Lawful

variable {policy : String → Policy} {host : String} {s : Slot} {c : Nat}

/-- While a selected subscriber is still to be called, nothing else is delivered. -/
lemma not_delivering_of_owed {gap before : List Event} {r : Result}
    {pass : Pass} {picked : List Nat}
    (h : Lawful policy (gap ++ .delivering host s pass r picked :: before)) (hm : c ∈ picked)
    (hgap : ∀ e ∈ gap, e.ofDebt host c = none) (host' : String) (s' : Slot) (pass' : Pass)
    (r' : Result) (picked' : List Nat) : .delivering host' s' pass' r' picked' ∉ gap := by
  intro hin
  obtain ⟨front, back, rfl⟩ := List.append_of_mem hin
  have howed : owed host c (back ++ .delivering host s pass r picked :: before) = some (s, r) := by
    rw [← owed_delivering hm s pass r before]
    exact latest_append _ _ _ fun e he =>
      hgap e (List.mem_append_right front (List.mem_cons_of_mem _ he))
  rw [List.append_assoc, List.cons_append] at h
  rw [h.fits.2.1 host c] at howed
  cases howed

/-- A subscriber that is owed a call is in the middle of the delivery that selected it. -/
lemma selected_of_owed {l : List Event} {r : Result} (h : Lawful policy l)
    (ho : owed host c l = some (s, r)) : Selected host s c r l := by
  obtain ⟨gap, pass, picked, before, rfl, hm, hgap⟩ := offer_of_owed ho
  refine ⟨gap, pass, picked, before, rfl, hm, fun j callback r' hc => ?_,
    not_delivering_of_owed h hm hgap⟩
  have hnone := hgap _ hc
  simp [Event.ofDebt, Event.ofCall] at hnone

/-- Whoever is called from a slot that it was taken off was owed the call at that time, and has been
ever since. -/
lemma owed_of_unsubscribed {mid earlier : List Event} {callback : String} {r : Result}
    (h : Lawful policy (.called host s c callback r :: (mid ++ .unsubscribed host s c :: earlier)))
    (hn : ∀ name, .subscribed host s c name ∉ mid) :
    owed host c earlier = some (s, r) ∧ ∀ e ∈ mid, e.ofDebt host c = none := by
  obtain ⟨gap, pass, picked, before, hsplit, hm, hgap⟩ := offer_of_owed h.1
  rcases split_cases hsplit with ⟨m, rfl, rfl⟩ | ⟨-, he, -⟩ | ⟨m, rfl, rfl⟩
  · refine ⟨?_, fun e he => hgap e (List.mem_append_left _ he)⟩
    rw [← owed_delivering hm s pass r before]
    exact latest_append _ _ _ fun e he =>
      hgap e (List.mem_append_right mid (List.mem_cons_of_mem _ he))
  · cases he
  · -- A delivery since then would have found it registered.
    have hlaw := h.2
    rw [List.append_assoc, List.cons_append] at hlaw
    have hin := hlaw.fits.2.2.1 c hm
    rw [not_enrolled_of_unsubscribed earlier fun name hx =>
      hn name (List.mem_append_right gap (List.mem_cons_of_mem _ hx))] at hin
    cases hin

/-- After it was taken off the slot, a subscriber is called from there once at most. -/
lemma calls_le_of_unsubscribed {later earlier : List Event}
    (h : Lawful policy (later ++ .unsubscribed host s c :: earlier))
    (hn : ∀ name, .subscribed host s c name ∉ later) :
    later.countP (Event.isCallOf host s c) ≤ 1 := by
  have hnone : later.countP (fun _ => false) = 0 := List.countP_eq_zero.mpr (by simp)
  rw [← Nat.zero_add 1, ← hnone]
  refine countP_le_of_between fun after x mid y before hsplit hx hy => ?_
  obtain ⟨callback, r, rfl⟩ := Event.isCallOf_iff.mp hx
  obtain ⟨callback', r', rfl⟩ := Event.isCallOf_iff.mp hy
  rw [hsplit, List.append_assoc, List.cons_append] at h
  obtain ⟨-, hdebt⟩ := h.tail.owed_of_unsubscribed fun name hm =>
    hn name (by rw [hsplit]; exact List.mem_append_right after (List.mem_cons_of_mem _ hm))
  have hcall := hdebt (.called host s c callback' r') (by simp)
  simp [Event.ofDebt, Event.ofCall] at hcall

end Lawful

namespace World

variable {w w' : World}

/-- After an unsubscription there is at most one more call from the slot, and only by a delivery that had
selected the subscriber before. -/
theorem unsubscription_is_final {sc : Scene} (h : Reachable sc.opening w)
    (beyond later earlier : List Event) (host : String) (slot : Slot) (c : Nat)
    (hj : w.journal = beyond ++ (later ++ .unsubscribed host slot c :: earlier))
    (hn : ∀ name, .subscribed host slot c name ∉ later) :
    later.countP (Event.isCallOf host slot c) ≤ 1 ∧
    ∀ after mid callback r, later = after ++ .called host slot c callback r :: mid →
      Selected host slot c r earlier ∧
      Selected host slot c r (mid ++ .unsubscribed host slot c :: earlier) := by
  have hlaw : Lawful w.policy w.journal := (Scene.sane_of_reachable h).sound.lawful
  rw [hj] at hlaw
  refine ⟨hlaw.tail.calls_le_of_unsubscribed hn, ?_⟩
  rintro after mid callback r rfl
  have hwithin : Lawful w.policy (.called host slot c callback r ::
      (mid ++ .unsubscribed host slot c :: earlier)) := by
    have hrest := hlaw.tail
    rw [List.append_assoc] at hrest
    exact hrest.tail
  obtain ⟨howed, -⟩ := hwithin.owed_of_unsubscribed fun name hm =>
    hn name (List.mem_append_right after (List.mem_cons_of_mem _ hm))
  exact ⟨hwithin.2.tail.2.selected_of_owed howed, hwithin.2.selected_of_owed hwithin.1⟩

/-- A subscriber that takes another one off its slot when it is called first. -/
def dismissal : Scene where
  scripts := ⟨[("d", [[.unsubscribe "p" ⟨"n", "o"⟩ "c"]])]⟩

def dismissing : List (Action × Nat) := [
  (.register "p" (heldNode "n" ["o"]) "n", 0),
  (.subscribe "p" "first" ⟨"n", "o"⟩ "d", 30),
  (.subscribe "p" "second" ⟨"n", "o"⟩ "c", 30),
  (.resolve .first (some (.value (.text "a"))), 60)]

/-- The subscriber is taken off the slot by the event at this place, not subscribed again, and called
from the slot by the event at place `i`. -/
def dismisses (w : World) (host : String) (slot : Slot) (c place i : Nat) : Bool :=
  (w.journal[place]?).any (Event.isUnsubscription host slot c) &&
    (w.journal.take place).all (fun e => !e.isSubscription) &&
    ((w.journal.take place)[i]?).any (Event.isCallOf host slot c)

lemma of_dismisses {host : String} {slot : Slot} {c place i : Nat}
    (h : w.dismisses host slot c place i = true) :
    ∃ after callback r mid earlier, w.journal = [] ++
        ((after ++ .called host slot c callback r :: mid) ++ .unsubscribed host slot c :: earlier) ∧
      ∀ name, .subscribed host slot c name ∉ after ++ .called host slot c callback r :: mid := by
  simp only [dismisses, Bool.and_eq_true, List.all_eq_true] at h
  obtain ⟨⟨hoff, hstays⟩, hcall⟩ := h
  obtain ⟨x, hx, hx'⟩ := (Option.any_eq_true _ _).mp hoff
  obtain ⟨y, hy, hy'⟩ := (Option.any_eq_true _ _).mp hcall
  cases Event.eq_of_isUnsubscription hx'
  obtain ⟨callback, r, rfl⟩ := Event.isCallOf_iff.mp hy'
  have hlater := split_of_place hy
  refine ⟨(w.journal.take place).take i, callback, r, (w.journal.take place).drop (i + 1),
    w.journal.drop (place + 1), ?_, fun name hm => ?_⟩
  · rw [← hlater, List.nil_append]
    exact split_of_place hx
  · rw [← hlater] at hm
    cases hstays _ hm

/-- The subscriber that comes second is taken off by the first one, and is called in the delivery that
had selected both. -/
theorem unsubscription_is_final_dismissing : ∃ w after mid callback r earlier,
    Reachable dismissal.opening w ∧ w.journal = [] ++ ((after ++ .called "p" ⟨"n", "o"⟩ 1 callback r ::
      mid) ++ .unsubscribed "p" ⟨"n", "o"⟩ 1 :: earlier) ∧
    (∀ name, .subscribed "p" ⟨"n", "o"⟩ 1 name ∉
      after ++ .called "p" ⟨"n", "o"⟩ 1 callback r :: mid) ∧
    (after ++ .called "p" ⟨"n", "o"⟩ 1 callback r :: mid).countP
      (Event.isCallOf "p" ⟨"n", "o"⟩ 1) ≤ 1 ∧
    Selected "p" ⟨"n", "o"⟩ 1 r earlier := by
  have hfacts : (dismissal.opening.rehearse dismissing).any
      (fun w => w.dismisses "p" ⟨"n", "o"⟩ 1 7 5) = true := by decide +kernel
  obtain ⟨w, hw, hd⟩ := (Option.any_eq_true _ _).mp hfacts
  obtain ⟨after, callback, r, mid, earlier, hj, hn⟩ := of_dismisses hd
  have hreach := reachable_rehearse .refl hw
  obtain ⟨hle, hselected⟩ := unsubscription_is_final hreach [] _ earlier "p" ⟨"n", "o"⟩ 1 hj hn
  exact ⟨w, after, mid, callback, r, earlier, hreach, hj, hn, hle,
    (hselected after mid callback r rfl).1⟩

/-- An unsubscription need not be final: a subscriber that was taken off its slot, and not subscribed
to it again, is called from there. -/
theorem called_after_unsubscription : ∃ w later earlier callback r,
    Reachable dismissal.opening w ∧
    w.journal = later ++ .unsubscribed "p" ⟨"n", "o"⟩ 1 :: earlier ∧
    (∀ name, .subscribed "p" ⟨"n", "o"⟩ 1 name ∉ later) ∧
    .called "p" ⟨"n", "o"⟩ 1 callback r ∈ later := by
  have hfacts : (dismissal.opening.rehearse dismissing).any
      (fun w => w.dismisses "p" ⟨"n", "o"⟩ 1 7 5) = true := by decide +kernel
  obtain ⟨w, hw, hd⟩ := (Option.any_eq_true _ _).mp hfacts
  obtain ⟨after, callback, r, mid, earlier, hj, hn⟩ := of_dismisses hd
  exact ⟨w, after ++ .called "p" ⟨"n", "o"⟩ 1 callback r :: mid, earlier, callback, r,
    reachable_rehearse .refl hw, hj, hn, by simp⟩

end World

end Dataflow

import Dataflow.Proofs.Runs

/-!
# The order of deliveries

A slot is delivered from with what is cached at that moment, and all who were selected get just that.
What is cached later was not begun to be computed earlier, so that no subscriber is called from a
slot with the result of an older computation after that of a newer one.
-/

namespace Dataflow

/-- The subscriber is called from the slot. -/
def Event.isCall (host : String) (s : Slot) (c : Nat) : Event → Bool
  | .called h j d _ _ => h == host && j == s && d == c
  | _ => false

lemma Event.isCall_iff {host : String} {s : Slot} {c : Nat} {e : Event} :
    e.isCall host s c = true ↔ ∃ callback r, e = .called host s c callback r := by
  cases e with
  | called h j d callback r => simp [isCall, and_assoc]
  | _ => simp [isCall]

open Journal

namespace Lawful

variable {policy : String → Policy} {host : String} {s : Slot}

lemma takenOff_of_landed {l : List Event} (h : Lawful policy l) {ticket : Nat} {r : Result}
    {kept : Bool} (hm : .landed host s ticket r kept ∈ l) : .takenOff host s ticket ∈ l := by
  obtain ⟨later, earlier, rfl⟩ := List.append_of_mem hm
  exact List.mem_append_right _ (List.mem_cons_of_mem _ h.fits.1)

/-- Tickets are given out in order. -/
lemma not_takenOff_before {after before : List Event} {ticket other : Nat}
    (h : Lawful policy (after ++ .takenOff host s ticket :: before)) (hle : ticket ≤ other) :
    .takenOff host s other ∉ before := by
  intro hm
  have hlt := h.tail.2.ticket_lt hm
  have hticket : ticket = departures before := h.fits.2.2
  omega

/-- What is cached later comes from the same computation or from one that was begun later. -/
lemma cached_in_order {gap past : List Event} {r₁ r₂ : Result}
    (h : Lawful policy (gap ++ past)) (h₁ : cached host s past = some r₁)
    (h₂ : cached host s (gap ++ past) = some r₂) :
    ∃ t₁ t₂, .landed host s t₁ r₁ true ∈ past ∧ .landed host s t₂ r₂ true ∈ gap ++ past ∧
      t₁ ≤ t₂ := by
  have hpast : Lawful policy past := h.tail
  obtain ⟨later, mid, earlier, t₂, hsplit, hlater, hmid⟩ := h.cached_since h₂
  have hland : .landed host s t₂ r₂ true ∈ gap ++ past := by
    rw [hsplit]
    exact List.mem_append_right _ List.mem_cons_self
  have hsplit' : gap ++ past =
      (later ++ .landed host s t₂ r₂ true :: mid) ++ .takenOff host s t₂ :: earlier := by
    rw [hsplit, List.append_assoc]
    rfl
  rcases List.append_eq_append_iff.mp hsplit' with ⟨front, hfront, hp⟩ | ⟨back, -, hp⟩
  · -- The later computation was under way already, and so it has landed by then.
    subst hp
    have hclear : ∀ e ∈ front, e.clears host s = false := by
      intro e he
      have hm : e ∈ later ++ .landed host s t₂ r₂ true :: mid := by
        rw [hfront]
        exact List.mem_append_right _ he
      rcases List.mem_append.mp hm with hm | hm
      · exact hlater e hm
      · rcases List.mem_cons.mp hm with rfl | hm
        · rfl
        · exact hmid e hm
    rcases hpast.flying_or_landed hclear with hf | ⟨r, hc, hm⟩
    · rw [hpast.cached_none_of_flying hf] at h₁
      cases h₁
    · rw [h₁] at hc
      cases hc
      exact ⟨t₂, t₂, List.mem_append_left _ hm, hland, Nat.le_refl _⟩
  · obtain ⟨later₁, before₁, t₁, rfl, -⟩ := cached_eq_some h₁
    have hland₁ : .landed host s t₁ r₁ true ∈ later₁ ++ .landed host s t₁ r₁ true :: before₁ :=
      List.mem_append_right _ List.mem_cons_self
    refine ⟨t₁, t₂, hland₁, hland, ?_⟩
    have hlt := hpast.ticket_lt (hpast.takenOff_of_landed hland₁)
    have ht : t₂ = departures earlier := by
      rw [hsplit'] at h
      exact h.fits.2.2
    have hcount := congrArg departures hp
    unfold departures at hlt ht hcount
    rw [List.countP_append, List.countP_cons_of_pos rfl] at hcount
    omega

/-- A call comes from a delivery that selected the subscriber, and nothing is delivered between the
two. -/
lemma delivering_of_called {later earlier : List Event} {c : Nat} {callback : String} {r : Result}
    (h : Lawful policy (later ++ .called host s c callback r :: earlier)) :
    ∃ gap pass picked before, earlier = gap ++ .delivering host s pass r picked :: before ∧
      c ∈ picked ∧ cached host s before = some r ∧
      ∀ host' s' pass' r' picked', .delivering host' s' pass' r' picked' ∉ gap := by
  have howed : owed host c earlier = some (s, r) := h.fits
  obtain ⟨gap, pass, picked, before, rfl, hm, hgap⟩ := offer_of_owed howed
  have hlaw : Lawful policy (gap ++ .delivering host s pass r picked :: before) := h.tail.2
  refine ⟨gap, pass, picked, before, rfl, hm, hlaw.fits.1, fun i k pass' r' picked' hx => ?_⟩
  obtain ⟨front, back, rfl⟩ := List.append_of_mem hx
  have hnone : owed host c (back ++ .delivering host s pass r picked :: before) = none := by
    rw [List.append_assoc] at hlaw
    exact hlaw.fits.2.1 host c
  have hsome : owed host c (back ++ .delivering host s pass r picked :: before) =
      owed host c (.delivering host s pass r picked :: before) :=
    latest_append _ _ _ fun x hx' =>
      hgap x (List.mem_append_right _ (List.mem_cons_of_mem _ hx'))
  rw [hsome, owed_delivering hm] at hnone
  cases hnone

/-- Two calls of one subscriber from one slot come in the order in which the computations behind them
were begun. -/
lemma called_in_order {later mid earlier : List Event} {c : Nat} {callback₁ callback₂ : String}
    {r₁ r₂ : Result}
    (h : Lawful policy (later ++ .called host s c callback₂ r₂ ::
      (mid ++ .called host s c callback₁ r₁ :: earlier))) :
    ∃ t₁ t₂, .landed host s t₁ r₁ true ∈ earlier ∧
      .landed host s t₂ r₂ true ∈ mid ++ .called host s c callback₁ r₁ :: earlier ∧ t₁ ≤ t₂ := by
  obtain ⟨gap₁, pass₁, picked₁, past₁, rfl, -, hc₁, hgap₁⟩ := h.tail.2.delivering_of_called
  obtain ⟨gap₂, pass₂, picked₂, past₂, hsplit, -, hc₂, hgap₂⟩ := h.delivering_of_called
  -- The earlier delivery is not the later one of the two, since nothing is delivered before a call.
  have hpast : ∃ gap, past₂ = gap ++ past₁ := by
    rcases split_cases hsplit with ⟨m, rfl, hrest⟩ | ⟨-, heq, -⟩ | ⟨m, -, rfl⟩
    · rcases split_cases hrest with ⟨k, rfl, -⟩ | ⟨-, heq, rfl⟩ | ⟨k, rfl, -⟩
      · exact absurd (by simp) (hgap₂ host s pass₁ r₁ picked₁)
      · exact ⟨[], rfl⟩
      · exact absurd (by simp) (hgap₁ host s pass₂ r₂ picked₂)
    · cases heq
    · exact ⟨m ++ .called host s c callback₁ r₁ ::
        (gap₁ ++ [.delivering host s pass₁ r₁ picked₁]), by simp⟩
  obtain ⟨gap, rfl⟩ := hpast
  have hlaw : Lawful policy (gap ++ past₁) := by
    have hl := h.tail.2
    rw [hsplit] at hl
    exact hl.tail.2
  obtain ⟨t₁, t₂, hm₁, hm₂, hle⟩ := hlaw.cached_in_order hc₁ hc₂
  refine ⟨t₁, t₂, List.mem_append_right _ (List.mem_cons_of_mem _ hm₁), ?_, hle⟩
  rw [hsplit]
  exact List.mem_append_right _ (List.mem_cons_of_mem _ hm₂)

end Lawful

namespace World

/-- Successive calls from one slot come from computations in the order of their starts, and each hands
over what was cached when it was delivered. -/
theorem deliveries_in_order {s : Scene} {w : World} (h : Reachable s.opening w) :
    (∀ later mid earlier host slot c callback₁ callback₂ r₁ r₂,
      w.journal = later ++ .called host slot c callback₂ r₂ ::
        (mid ++ .called host slot c callback₁ r₁ :: earlier) →
      ∃ t₁ t₂ after before, .landed host slot t₁ r₁ true ∈ w.journal ∧
        .landed host slot t₂ r₂ true ∈ w.journal ∧
        w.journal = after ++ .takenOff host slot t₁ :: before ∧
        .takenOff host slot t₂ ∉ before) ∧
    (∀ later earlier host slot c callback r,
      w.journal = later ++ .called host slot c callback r :: earlier →
      ∃ gap pass picked before, earlier = gap ++ .delivering host slot pass r picked :: before ∧
        c ∈ picked ∧ cached host slot before = some r ∧
        ∀ host' slot' pass' r' picked', .delivering host' slot' pass' r' picked' ∉ gap) ∧
    (∀ host slot pass r picked,
      w.step.journal = .delivering host slot pass r picked :: w.journal →
      (w.engine host).cached slot = some r) := by
  have hs := Scene.sane_of_reachable h
  have hlaw : Lawful w.policy w.journal := hs.sound.lawful
  refine ⟨?_, ?_, ?_⟩
  · intro later mid earlier host slot c callback₁ callback₂ r₁ r₂ hj
    have hl := hlaw
    rw [hj] at hl
    obtain ⟨t₁, t₂, hm₁, hm₂, hle⟩ := hl.called_in_order
    have hland : .landed host slot t₁ r₁ true ∈ w.journal := by
      rw [hj]
      simp [hm₁]
    obtain ⟨after, before, hsplit⟩ := List.append_of_mem (hlaw.takenOff_of_landed hland)
    refine ⟨t₁, t₂, after, before, hland, ?_, hsplit, ?_⟩
    · rw [hj]
      exact List.mem_append_right _ (List.mem_cons_of_mem _ hm₂)
    · rw [hsplit] at hlaw
      exact hlaw.not_takenOff_before hle
  · intro later earlier host slot c callback r hj
    rw [hj] at hlaw
    exact hlaw.delivering_of_called
  · intro host slot pass r picked hj
    have hlaw' : Lawful w.step.policy w.step.journal :=
      (Scene.sane_of_reachable (.step h)).sound.lawful
    rw [hj] at hlaw'
    exact (hs.sound.mirrors.cached host slot).trans hlaw'.1.1

/-- Two emissions of one slot at once: the one that was started first waits for a computation that is
overtaken, and comes to its end last. -/
def outlasting : List (Action × Nat) := [
  (.register "p" (heldNode "n" ["o"]) "n", 0),
  (.subscribe "p" "s" ⟨"n", "o"⟩ "c", 30),
  (.resolve .first (some (.value (.text "a"))), 60),
  (.invalidate "p" "first" "n" (some ["o"]), 60),
  (.invalidate "p" "second" "n" (some ["o"]), 60),
  (.resolve .last (some (.value (.text "b"))), 60),
  (.resolve .first (some (.value (.text "old"))), 60)]

/-- The subscriber gets the second result while the older computation is still under way. -/
theorem deliveries_in_order_overlapping : ∃ w later mid earlier callback₁ callback₂ r₁ r₂,
    Reachable ({} : Scene).opening w ∧
    w.journal = later ++ .called "p" ⟨"n", "o"⟩ 0 callback₂ r₂ ::
      (mid ++ .called "p" ⟨"n", "o"⟩ 0 callback₁ r₁ :: earlier) ∧
    ∃ t₁ t₂ after before, .landed "p" ⟨"n", "o"⟩ t₁ r₁ true ∈ w.journal ∧
      .landed "p" ⟨"n", "o"⟩ t₂ r₂ true ∈ w.journal ∧
      w.journal = after ++ .takenOff "p" ⟨"n", "o"⟩ t₁ :: before ∧
      .takenOff "p" ⟨"n", "o"⟩ t₂ ∉ before := by
  have hcalls : (({} : Scene).opening.rehearse outlasting).any (fun w =>
      (w.journal[7]?).any (Event.isCall "p" ⟨"n", "o"⟩ 0) &&
        (w.journal[27]?).any (Event.isCall "p" ⟨"n", "o"⟩ 0)) = true := by decide +kernel
  obtain ⟨w, hw, hany⟩ := (Option.any_eq_true _ _).mp hcalls
  rw [Bool.and_eq_true] at hany
  obtain ⟨y, hy, hcall₂⟩ := (Option.any_eq_true _ _).mp hany.1
  obtain ⟨x, hx, hcall₁⟩ := (Option.any_eq_true _ _).mp hany.2
  obtain ⟨callback₂, r₂, rfl⟩ := Event.isCall_iff.mp hcall₂
  obtain ⟨callback₁, r₁, rfl⟩ := Event.isCall_iff.mp hcall₁
  obtain ⟨mid, earlier, hsplit⟩ := split_of_places (by decide) hy hx
  have hreach := reachable_rehearse .refl hw
  exact ⟨w, _, mid, earlier, callback₁, callback₂, r₁, r₂, hreach, hsplit,
    (deliveries_in_order hreach).1 _ mid earlier "p" _ 0 callback₁ callback₂ r₁ r₂ hsplit⟩

end World

end Dataflow

import Dataflow.Proofs.GateSteps

/-!
# Who stands in line

Whoever stands in line at a gate has an emission under way that holds it. So nobody stands in line
where no task is left, and whoever comes next is first.
-/

namespace Dataflow

namespace Engine

/-- Those that stand in line at the gate of a slot. -/
def lineAt (e : Engine) (s : Slot) : List (Nat × Waiter) :=
  match e.gate? s with
  | some g => g.line
  | none => []

variable {e : Engine} {s j : Slot} {pass : Pass} {g : Gate}

lemma lineAt_of_gate (hg : e.gate? s = some g) : e.lineAt s = g.line := by
  unfold lineAt
  rw [hg]

lemma lineAt_congr {e' : Engine} (h : e'.gate? j = e.gate? j) : e'.lineAt j = e.lineAt j := by
  unfold lineAt
  rw [h]

/-- Whoever holds the gate of a slot finds its line. -/
lemma line_eq_lineAt (hg : e.gate? s = some g) (hid : g.id = pass.gate) :
    e.line s pass = e.lineAt s := by
  unfold line
  rw [lineAt_of_gate hg, hg]
  exact if_pos hid

@[simp] lemma lineAt_enter : (e.enter s).2.lineAt j = e.lineAt j := by
  unfold lineAt
  rw [gate?_enter]
  by_cases hj : s = j
  · subst hj
    rw [if_pos rfl]
    unfold gateFor
    cases e.gate? s <;> rfl
  · rw [if_neg hj]

lemma lineAt_modifyGate (hg : e.gate? s = some g) (hid : g.id = pass.gate) (f : Gate → Gate) :
    (e.modifyGate s pass f).lineAt j = if s = j then (f g).line else e.lineAt j := by
  unfold lineAt
  rw [gate?_modifyGate]
  by_cases hj : s = j
  · rw [if_pos hj, if_pos hj, hg, Option.map_some, if_pos hid]
  · rw [if_neg hj, if_neg hj]

lemma lineAt_lineUp (hg : e.gate? s = some g) (hid : g.id = pass.gate) (who : Waiter) :
    (e.lineUp s pass who).lineAt j =
      if s = j ∧ ∀ p ∈ e.lineAt s, p.1 ≠ pass.number then e.lineAt s ++ [(pass.number, who)]
      else e.lineAt j := by
  have hany : (e.line s pass).any (·.1 == pass.number) = true ↔
      ¬∀ p ∈ e.lineAt s, p.1 ≠ pass.number := by
    rw [line_eq_lineAt hg hid]
    simp
  unfold lineUp
  by_cases hin : ∀ p ∈ e.lineAt s, p.1 ≠ pass.number
  · rw [if_neg fun h => (hany.mp h) hin, lineAt_modifyGate hg hid, lineAt_of_gate hg]
    by_cases hj : s = j
    · rw [if_pos hj, if_pos ⟨hj, lineAt_of_gate hg ▸ hin⟩]
    · rw [if_neg hj, if_neg fun h => hj h.1]
  · rw [if_pos (hany.mpr hin), if_neg fun h => hin h.2]

lemma lineAt_stepOut (hg : e.gate? s = some g) (hid : g.id = pass.gate) :
    (e.stepOut s pass).lineAt j =
      if s = j then (e.lineAt s).filter (·.1 != pass.number) else e.lineAt j := by
  unfold stepOut
  rw [lineAt_modifyGate hg hid, lineAt_of_gate hg]

@[simp] lemma lineAt_abandon : (e.abandon s pass).lineAt j = e.lineAt j := by
  unfold abandon lineAt
  rw [gate?_modifyGate]
  by_cases hj : s = j
  · subst hj
    rw [if_pos rfl]
    cases e.gate? s with
    | none => rfl
    | some g =>
      rw [Option.map_some]
      dsimp only
      by_cases hid : g.id = pass.gate
      · rw [if_pos hid]
      · rw [if_neg hid]
  · rw [if_neg hj]

/-- The line goes with the gate. -/
lemma lineAt_leave (e : Engine) (s j : Slot) (pass : Pass) :
    (e.leave s pass).lineAt j = e.lineAt j ∨
      s = j ∧ (e.leave s pass).lineAt j = [] ∧ ∃ g, e.gate? s = some g ∧ g.holders = [pass.number] := by
  rcases e.leave_cases s pass with ⟨g, hg, hlast, heq⟩ | heq <;> rw [heq]
  · by_cases hj : s = j
    · subst hj
      exact .inr ⟨rfl, by simp [lineAt, gate?], g, hg, hlast⟩
    · have hne : ¬(s.node = j.node ∧ s.output = j.output) := fun he => hj ((s.eq_iff j).mpr he)
      exact .inl (lineAt_congr (by simp [gate?, hne]))
  · exact .inl lineAt_abandon

lemma mem_lineAt_leave {p : Nat × Waiter} (h : p ∈ (e.leave s pass).lineAt j) : p ∈ e.lineAt j := by
  rcases lineAt_leave e s j pass with heq | ⟨-, hnil, -⟩
  · exact heq ▸ h
  · rw [hnil] at h
    cases h

end Engine

namespace Gating

variable {b b' : Gating}

/-- Whoever stands in line has an emission under way at that gate. -/
def Lined (b : Gating) : Prop := ∀ host s p, p ∈ (b.engine host).lineAt s →
  ∃ t i x, b.stake t i = some x ∧ x.host = host ∧ x.slot = s ∧ x.pass.number = p.1

namespace Lined

/-- One emission comes to hold something else, and stands in line at most where it holds the gate. -/
lemma turn (h : b.Lined) {t i : Nat} {host : String} {e : Engine} {o : Option Stake}
    (hold : ∀ x, b.stake t i = some x → x.host = host)
    (hline : ∀ s p, p ∈ e.lineAt s →
      (∃ x, o = some x ∧ x.host = host ∧ x.slot = s ∧ x.pass.number = p.1) ∨
        p ∈ (b.engine host).lineAt s ∧
          ∀ x, b.stake t i = some x → x.slot = s → x.pass.number ≠ p.1) :
    (b.turn t i host e o).Lined := by
  intro k s p hp
  have hkeeps : ∀ u c x, b.stake u c = some x → ¬(u = t ∧ c = i) →
      (b.turn t i host e o).stake u c = some x := fun u c x hx hne => (if_neg hne).trans hx
  simp only [Gating.turn] at hp
  by_cases hk : host = k
  · subst hk
    rw [if_pos rfl] at hp
    rcases hline s p hp with ⟨x, rfl, hx⟩ | ⟨hp, hother⟩
    · exact ⟨t, i, x, if_pos ⟨rfl, rfl⟩, hx⟩
    · obtain ⟨u, c, x, hx, hxh, hxs, hxn⟩ := h host s p hp
      refine ⟨u, c, x, hkeeps u c x hx ?_, hxh, hxs, hxn⟩
      rintro ⟨rfl, rfl⟩
      exact hother x hx hxs hxn
  · rw [if_neg hk] at hp
    obtain ⟨u, c, x, hx, hxh, hrest⟩ := h k s p hp
    refine ⟨u, c, x, hkeeps u c x hx ?_, hxh, hrest⟩
    rintro ⟨rfl, rfl⟩
    exact hk ((hold x hx).symm.trans hxh)

/-- An emission that goes on holding its gate may stand in line there. -/
lemma goOn (h : b.Lined) {t i : Nat} {x y : Stake} (hx : b.stake t i = some x) {e : Engine}
    (hhost : y.host = x.host) (hslot : y.slot = x.slot) (hpass : y.pass = x.pass)
    (hline : ∀ s p, p ∈ e.lineAt s →
      p ∈ (b.engine x.host).lineAt s ∨ s = x.slot ∧ p.1 = x.pass.number) :
    (b.turn t i x.host e (some y)).Lined := by
  have hold : ∀ x', b.stake t i = some x' → x' = x := fun x' hx' => by
    rw [hx] at hx'
    exact (Option.some.inj hx').symm
  refine h.turn (fun x' hx' => by rw [hold x' hx']) fun s p hp => ?_
  by_cases hown : s = x.slot ∧ p.1 = x.pass.number
  · exact .inl ⟨y, rfl, hhost, hslot.trans hown.1.symm, by rw [hpass]; exact hown.2.symm⟩
  · refine .inr ⟨(hline s p hp).resolve_right hown, fun x' hx' hs hn => ?_⟩
    rw [hold x' hx'] at hs hn
    exact hown ⟨hs.symm, hn.symm⟩

/-- An emission that steps out of the line may let go of the gate. -/
lemma letGo (h : b.Lined) (hk : b.Kept) {t i : Nat} {x : Stake} (hx : b.stake t i = some x)
    {e : Engine} {o : Option Stake}
    (hline : ∀ s p, p ∈ e.lineAt s → p ∈ ((b.engine x.host).stepOut x.slot x.pass).lineAt s) :
    (b.turn t i x.host e o).Lined := by
  obtain ⟨g, hg, hid, -⟩ := hk.held t i x hx
  have hold : ∀ x', b.stake t i = some x' → x' = x := fun x' hx' => by
    rw [hx] at hx'
    exact (Option.some.inj hx').symm
  refine h.turn (fun x' hx' => by rw [hold x' hx']) fun s p hp => .inr ?_
  have hp' := hline s p hp
  rw [Engine.lineAt_stepOut hg hid] at hp'
  by_cases hs : x.slot = s
  · rw [if_pos hs, List.mem_filter] at hp'
    refine ⟨hs ▸ hp'.1, fun x' hx' _ hn => ?_⟩
    rw [hold x' hx'] at hn
    simp [hn] at hp'
  · rw [if_neg hs] at hp'
    refine ⟨hp', fun x' hx' hs' => ?_⟩
    rw [hold x' hx'] at hs'
    exact absurd hs' hs

lemma gateTurn (h : b.Lined) (hk : b.Kept) (hm : GateTurn b b') : b'.Lined := by
  cases hm with
  | rest he hs =>
    intro host s p hp
    rw [hs]
    refine h host s p ?_
    rw [Engine.lineAt_congr (e := b.engine host)] at hp
    · exact hp
    · unfold Engine.gate?
      rw [(he host).1]
  | enter t i host s hnone =>
    have hno : ∀ x, b.stake t i ≠ some x := fun x hx => by
      rw [hnone] at hx
      cases hx
    refine h.turn (fun x hx => absurd hx (hno x)) fun j p hp => .inr ⟨?_, fun x hx => absurd hx (hno x)⟩
    rw [Engine.lineAt_enter] at hp
    exact hp
  | lineUp t i x who hx =>
    obtain ⟨g, hg, hid, -⟩ := hk.held t i x hx
    refine h.goOn hx rfl rfl rfl fun s p hp => ?_
    rw [Engine.lineAt_lineUp hg hid] at hp
    by_cases hs : x.slot = s ∧ ∀ p ∈ (b.engine x.host).lineAt x.slot, p.1 ≠ x.pass.number
    · rw [if_pos hs] at hp
      rcases List.mem_append.mp hp with hp | hp
      · exact .inl (hs.1 ▸ hp)
      · rw [List.mem_singleton] at hp
        exact .inr ⟨hs.1.symm, by rw [hp]⟩
    · rw [if_neg hs] at hp
      exact .inl hp
  | deliver t i x hx _ => exact h.goOn hx rfl rfl rfl fun _ _ hp => .inl hp
  | retry t i x hx => exact h.letGo hk hx fun _ _ hp => hp
  | leave t i x hx => exact h.letGo hk hx fun _ _ hp => Engine.mem_lineAt_leave hp

lemma move (h : b.Lined) (hk : b.Kept) (hm : GateMove b b') : b'.Lined := by
  cases hm with
  | turn hm => exact h.gateTurn hk hm
  | abandon t i x hx =>
    refine h.letGo hk hx fun _ _ hp => ?_
    rw [Engine.lineAt_abandon] at hp
    exact hp

lemma moves (h : b.Lined) (hk : b.Kept) (hm : Relation.ReflTransGen GateMove b b') : b'.Lined := by
  induction hm with
  | refl => exact h
  | tail hold hm ih => exact ih.move (hk.moves hold) hm

end Lined

end Gating

namespace Scene

theorem lined_of_reachable {s : Scene} {w : World} (h : World.Reachable s.opening w) :
    w.gating.Lined := by
  refine keeps (P := fun w => w.gating.Lined) h ?_ (fun w w' hr hl _ _ ht _ => ?_) fun w hr hl => ?_
  · intro host j p hp
    rw [show s.opening.gating.engine host = {} from s.engine_opening host] at hp
    cases hp
  · exact hl.moves (kept_of_reachable hr) ht.toKeepsStakes.gateTurns.gateMoves
  · exact hl.moves (kept_of_reachable hr)
      ((unburdened_of_reachable hr).gateMoves (sane_of_reachable hr) (covered_of_reachable hr))

end Scene

namespace World

/-- Nobody stands in line where no emission is under way. -/
lemma lineAt_of_rest {sc : Scene} {w : World} (h : Reachable sc.opening w)
    (hn : ∀ t i, w.stake? t i = none) (host : String) (s : Slot) :
    (w.engine host).lineAt s = [] := by
  refine List.eq_nil_iff_forall_not_mem.mpr fun p hp => ?_
  obtain ⟨t, i, x, hx, -⟩ := Scene.lined_of_reachable h host s p hp
  have hstake : w.stake? t i = some x := hx
  rw [hn t i] at hstake
  cases hstake

end World

end Dataflow

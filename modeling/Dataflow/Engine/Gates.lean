import Dataflow.Engine.Basic

/-!
# Delivery gates

The deliveries of a slot go through its gate one at a time, in the order in which they come to it.
The gate is there from the first emission that enters until the last one leaves. An emission that
does not come to its end lets go of the gate without removing it.
-/

namespace Dataflow

namespace Engine

def gate? (e : Engine) (s : Slot) : Option Gate := e.gates.get? s.node s.output

/-- Takes hold of the gate of a slot, making it if there is none. -/
def enter (e : Engine) (s : Slot) : Pass × Engine :=
  let gate := (e.gate? s).getD { id := e.passes }
  (⟨gate.id, e.passes⟩,
    { e with
      gates := e.gates.set s.node s.output { gate with holders := gate.holders ++ [e.passes] }
      passes := e.passes + 1 })

/-- Changes the gate that a pass is for. -/
def modifyGate (e : Engine) (s : Slot) (pass : Pass) (f : Gate → Gate) : Engine :=
  match e.gate? s with
  | some g => if g.id = pass.gate then { e with gates := e.gates.set s.node s.output (f g) } else e
  | none => e

/-- Lets go of the gate; the gate stays. -/
def abandon (e : Engine) (s : Slot) (pass : Pass) : Engine :=
  e.modifyGate s pass fun g => { g with holders := g.holders.erase pass.number }

/-- Lets go of the gate at the end of an emission; the last holder removes it. -/
def leave (e : Engine) (s : Slot) (pass : Pass) : Engine :=
  match e.gate? s with
  | some g =>
    if g.id = pass.gate ∧ g.holders = [pass.number] then
      { e with gates := e.gates.erase s.node s.output }
    else e.abandon s pass
  | none => e

/-- Those that stand in line with a pass for the gate. -/
def line (e : Engine) (s : Slot) (pass : Pass) : List (Nat × Waiter) :=
  match e.gate? s with
  | some g => if g.id = pass.gate then g.line else []
  | none => []

/-- Comes to the gate. Whoever stands in line already keeps its place. -/
def lineUp (e : Engine) (s : Slot) (pass : Pass) (who : Waiter) : Engine :=
  if (e.line s pass).any (·.1 == pass.number) then e
  else e.modifyGate s pass fun g => { g with line := g.line ++ [(pass.number, who)] }

/-- Whether all others in line stand behind. -/
def isFirst (e : Engine) (s : Slot) (pass : Pass) : Bool :=
  (e.line s pass).head?.any (·.1 == pass.number)

/-- Steps out of the line. -/
def stepOut (e : Engine) (s : Slot) (pass : Pass) : Engine :=
  e.modifyGate s pass fun g => { g with line := g.line.filter (·.1 != pass.number) }

/-- The two differ in their gates and passes at most, and no pass was taken back. -/
def Regated (e e' : Engine) : Prop :=
  ∃ gates passes, e.passes ≤ passes ∧ e' = { e with gates, passes }

theorem Regated.refl (e : Engine) : e.Regated e := ⟨e.gates, e.passes, Nat.le_refl _, rfl⟩

theorem Regated.trans {e e' e'' : Engine} (h : e.Regated e') (h' : e'.Regated e'') :
    e.Regated e'' := by
  obtain ⟨gates, passes, hle, rfl⟩ := h
  obtain ⟨gates', passes', hle', rfl⟩ := h'
  exact ⟨gates', passes', Nat.le_trans hle hle', rfl⟩

theorem Regated.passes_le {e e' : Engine} (h : e.Regated e') : e.passes ≤ e'.passes := by
  obtain ⟨gates, passes, hle, rfl⟩ := h
  exact hle

/-- The pass has the number that comes next. -/
theorem enter_number (e : Engine) (s : Slot) :
    (e.enter s).1.number = e.passes ∧ (e.enter s).2.passes = e.passes + 1 := ⟨rfl, rfl⟩

theorem regated_enter (e : Engine) (s : Slot) : e.Regated (e.enter s).2 :=
  ⟨_, _, Nat.le_succ _, rfl⟩

/-- The gate that the pass is for is changed, or nothing is. -/
theorem modifyGate_cases (e : Engine) (s : Slot) (pass : Pass) (f : Gate → Gate) :
    (∃ g, e.gate? s = some g ∧ g.id = pass.gate ∧
      e.modifyGate s pass f = { e with gates := e.gates.set s.node s.output (f g) }) ∨
    e.modifyGate s pass f = e := by
  unfold modifyGate
  cases hg : e.gate? s with
  | none => exact .inr rfl
  | some g =>
    by_cases hid : g.id = pass.gate
    · exact .inl ⟨g, rfl, hid, if_pos hid⟩
    · exact .inr (if_neg hid)

/-- The last holder removes the gate, and everybody else lets go of it. -/
theorem leave_cases (e : Engine) (s : Slot) (pass : Pass) :
    (∃ g, e.gate? s = some g ∧ g.holders = [pass.number] ∧
      e.leave s pass = { e with gates := e.gates.erase s.node s.output }) ∨
    e.leave s pass = e.abandon s pass := by
  unfold leave abandon modifyGate
  cases hg : e.gate? s with
  | none => exact .inr rfl
  | some g =>
    by_cases hlast : g.id = pass.gate ∧ g.holders = [pass.number]
    · exact .inl ⟨g, rfl, hlast.2, if_pos hlast⟩
    · exact .inr (if_neg hlast)

/-- Whoever comes to the gate stands in line already, or is put at the end of it. -/
theorem lineUp_cases (e : Engine) (s : Slot) (pass : Pass) (who : Waiter) :
    e.lineUp s pass who = e ∨
    e.lineUp s pass who =
      e.modifyGate s pass fun g => { g with line := g.line ++ [(pass.number, who)] } := by
  unfold lineUp
  by_cases hin : (e.line s pass).any (·.1 == pass.number) = true
  · exact .inl (if_pos hin)
  · exact .inr (if_neg hin)

theorem regated_modifyGate (e : Engine) (s : Slot) (pass : Pass) (f : Gate → Gate) :
    e.Regated (e.modifyGate s pass f) := by
  rcases e.modifyGate_cases s pass f with ⟨g, -, -, heq⟩ | heq
  · exact ⟨_, _, Nat.le_refl _, heq⟩
  · rw [heq]
    exact .refl e

theorem regated_leave (e : Engine) (s : Slot) (pass : Pass) : e.Regated (e.leave s pass) := by
  rcases e.leave_cases s pass with ⟨g, -, -, heq⟩ | heq
  · exact ⟨_, _, Nat.le_refl _, heq⟩
  · rw [heq]
    exact regated_modifyGate e s pass _

theorem regated_lineUp (e : Engine) (s : Slot) (pass : Pass) (who : Waiter) :
    e.Regated (e.lineUp s pass who) := by
  rcases e.lineUp_cases s pass who with heq | heq <;> rw [heq]
  · exact .refl e
  · exact regated_modifyGate e s pass _

end Engine

end Dataflow

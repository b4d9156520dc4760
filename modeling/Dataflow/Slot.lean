/-!
# Slots

A slot is one named output of one node, given by the two names.
-/

namespace Dataflow

structure Slot where
  node : String
  output : String
deriving DecidableEq, Repr

theorem Slot.eq_iff (s t : Slot) : s = t ↔ s.node = t.node ∧ s.output = t.output := by
  cases s
  cases t
  simp

end Dataflow

import Dataflow.Result

/-!
# Equality policies

A policy decides whether a subscriber has in effect already seen a result. Whatever the policy, a
result is the same as itself.
-/

namespace Dataflow

inductive Policy where
  /-- Only a result itself is the same. -/
  | identity
  /-- JSON values are compared by structure and failures by their messages. -/
  | json
  /-- A predicate of the result received last and the current one. -/
  | custom (same : Result → Result → Bool)

namespace Policy

def sameContent : Content → Content → Bool
  | .ok (.json a), .ok (.json b) => a.same b
  | .error a, .error b => a.message == b.message
  | _, _ => false

/-- Whether `new` is the same as `old`, the result received last. -/
def same (p : Policy) (old new : Result) : Bool :=
  old.id == new.id ||
    match p with
    | .identity => false
    | .json => sameContent old.content new.content
    | .custom f => f old new

@[simp] theorem same_self (p : Policy) (r : Result) : p.same r r = true := by
  simp [same]

end Policy

end Dataflow

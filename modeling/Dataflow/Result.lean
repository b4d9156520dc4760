import Dataflow.Failure
import Dataflow.Payload

/-!
# Results

A result is what one computation of a slot came to. Results carry the number under which they were
made, so that two results of equal content can still be told apart.
-/

namespace Dataflow

/-- A payload, or the failure that explains why there is none. -/
abbrev Content := Except Failure Payload

structure Result where
  id : Nat
  content : Content

namespace Result

def isOk (r : Result) : Bool :=
  match r.content with
  | .ok _ => true
  | .error _ => false

/-- The payload of a successful result, when it is of kind `k`. -/
def payload? (r : Result) (k : Kind) : Option Payload :=
  match r.content with
  | .ok p => p.as? k
  | .error _ => none

end Result

end Dataflow

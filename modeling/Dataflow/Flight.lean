import Dataflow.Node
import Dataflow.Seats

/-!
# Flights

A work is one production of an output. A flight is a work shared by all who wait for the slot. It
has no life of its own: it moves on only while one of those who wait for it drives it, and it is
lost when nobody holds a share in it any more.
-/

namespace Dataflow

/-- A share in a flight: its ticket, and the seat once one was taken. -/
structure Handle where
  ticket : Nat
  seat : Option Nat := none
deriving DecidableEq, Repr

inductive Stage where
  | fresh
  /-- Behind a valve. -/
  | held (valve : Nat) (rest : Option Outcome → Recipe)
  /-- Waiting for another flight. -/
  | asking (h : Handle) (rest : Content → Recipe)
  /-- Going on, or over. -/
  | away

/-- One production of an output, with the node and the schema it started with. -/
structure Work where
  host : String
  slot : Slot
  target : Except Failure (Node × Schema)
  stage : Stage := .fresh

/-- The share in another flight that the work waits for. -/
def Work.share? (k : Work) : Option Handle :=
  match k.stage with
  | .asking h _ => some h
  | _ => none

/-- What a work comes to for what its node handed over: the payload if the schema accepts it, or
else the failure. A schema that breaks down has no answer. -/
def Work.judge (k : Work) (handed : Except Cause Payload) : Except String Content :=
  match k.target, handed with
  | .error f, _ => .ok (.error f)
  | .ok _, .error c => .ok (.error (.compute k.slot.node k.slot.output c))
  | .ok (_, schema), .ok p =>
    match schema.check p with
    | .accepted => .ok (.ok p)
    | .rejected d => .ok (.error (.validation k.slot.node k.slot.output d))
    | .crashed text => .error text

inductive Status where
  | idle
  | driven
  /-- Driving it ended in a panic. -/
  | broken
  /-- Nobody held it any more. -/
  | lost
  | landed (r : Result)

structure Flight where
  work : Work
  status : Status := .idle
  seats : Seats := {}

end Dataflow

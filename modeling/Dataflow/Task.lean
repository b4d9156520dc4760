import Dataflow.Fan

/-!
# Tasks

A task is something that runs until it has to wait, and is taken up again where it was left.
-/

namespace Dataflow

/-- What a task has to do next. -/
inductive Job where
  /-- Looks for the result of a slot, or waits for it. -/
  | output (host : String) (slot : Slot) (h : Option Handle)
  /-- Computes a slot on its own. -/
  | compute (host : String) (slot : Slot)
  | work (k : Work)
  | invalidate (host node : String) (keys : Option (List String))
  | fan (f : Fan)
  | emit (e : Emission)
  /-- Waits for the end of another task. -/
  | follow (t : Nat)
  | nothing

/-- The emissions that a job has under way. -/
def Job.emissions : Job → List Emission
  | .emit e => [e]
  | .fan f => f.emissions
  | _ => []

/-- The shares in flights that a job holds. -/
def Job.shares : Job → List Handle
  | .output _ _ h => h.toList
  | .work k => k.share?.toList
  | j => j.emissions.filterMap Emission.share?

/-- How a task ended. -/
inductive End where
  | result (r : Result)
  | ok
  | failed (f : Failure)
  | panicked (text : String)
  | cancelled

/-- The first delivery of a subscription. -/
inductive Delivery where
  | spawned (t : Nat)
  /-- It runs when it is waited for. -/
  | deferred (e : Emission)
  /-- The task has waited for it. -/
  | taken (t : Nat)

/-- What there is to do for whoever waits for the delivery. -/
def Delivery.job : Delivery → Job
  | .spawned t => .follow t
  | .deferred e => .emit e
  | .taken _ => .nothing

/-- Nobody takes a delivery twice. -/
def Delivery.take (t : Nat) : Delivery → Delivery
  | .taken u => .taken u
  | _ => .taken t

structure Subscription where
  host : String
  slot : Slot
  subscriber : Nat
  delivery : Delivery
  /-- The task that has borrowed it to wait for the first delivery. -/
  borrower : Option Nat := none

/-- The subscription as the task leaves it that waits for its first delivery. -/
def Subscription.spent (s : Subscription) (t : Nat) : Subscription :=
  { s with delivery := s.delivery.take t, borrower := none }

structure Task where
  name : Option String := none
  job : Job
  cancelled : Bool := false
  ended : Option End := none
  /-- Who waits for the end. -/
  follower : Option Nat := none
  /-- The subscription whose first delivery it waits for, with the name that it is kept under. -/
  holding : Option (String × Subscription) := none

end Dataflow

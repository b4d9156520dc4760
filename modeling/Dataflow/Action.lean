import Dataflow.Node

/-!
# Actions

What a scene can do to its pipelines, from outside or out of a subscriber that is being called,
and what comes back at once.
-/

namespace Dataflow

inductive ValveChoice where
  | number (n : Int)
  | first
  | last
deriving DecidableEq, Repr

inductive Action where
  | settle
  | setCell (cell : String) (o : Outcome)
  | register (host : String) (node : Node) (handle : String)
  | unregister (host id : String)
  /-- Registers a node that was unregistered before. -/
  | restore (host id : String)
  | reregister (host id : String)
  | getNode (host id : String)
  | getSchema (host : String) (slot : Slot) (p : Option Payload)
  | cached (host : String) (slot : Slot)
  | initialized (host : String)
  | describe (host : String)
  | compute (host task : String) (slot : Slot)
  | output (host task : String) (slot : Slot)
  | invalidate (host task node : String) (keys : Option (List String))
  | invalidateBy (host task handle : String) (keys : Option (List String))
  | subscribe (host sub : String) (slot : Slot) (callback : String)
  | unsubscribe (host : String) (slot : Slot) (callback : String)
  | unsubscribeBy (sub : String)
  | dropSubscription (sub : String)
  | dropCallback (callback : String)
  /-- Waits for the first delivery of a subscription, which the task owns meanwhile or was lent. -/
  | await (task sub : String) (lent : Bool := false)
  | resolve (valve : ValveChoice) (o : Option Outcome)
  | cancel (task : String)
  | panic (text : String)
  | unknown (name : String)

/-- Why an action was not carried out. -/
inductive Refusal where
  | noRemoved
  | noHandle
  | noSubscription
  | noValve
  | noTask
  | taskExists
  | unknownAction (name : String)
deriving DecidableEq, Repr

inductive Reply where
  | nothing
  | flag (b : Bool)
  | text (s : String)
  | number (n : Nat)
  | node (n : Node)
  | schemaFound
  | valid
  | invalid (message : String)
  | cached (r : Result)
  | failure (f : Failure)
  | refused (why : Refusal)

end Dataflow

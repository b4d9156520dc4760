import Dataflow.Task

/-!
# Events

The history of a scene is a list of events: everything that changes an engine, everything that nodes
and subscribers are asked to do, and the beginnings and ends of tasks. `Event.notices` gives what an
engine reports about itself.
-/

namespace Dataflow

/-- Where a panic comes from. -/
inductive PanicSource where
  /-- A node, or the schema that its output is held against. -/
  | node
  | subscriber
  | engine
  /-- A flight or a task that had panicked before. -/
  | former
deriving DecidableEq, Repr

inductive Event where
  | built (host : String)
  | registered (host : String) (n : Node) (replaced : Bool)
  /-- Subscribers will see a replaced node on the next invalidation only. -/
  | postponed (host node : String)
  | unregistered (host node : String)
  /-- The subscription is kept under a name. -/
  | subscribed (host : String) (slot : Slot) (subscriber : Nat) (name : String)
  | unsubscribed (host : String) (slot : Slot) (subscriber : Nat)
  /-- The slots of these keys are cleared by a task. -/
  | invalidating (task : Nat) (host node : String) (keys : List String)
  | takenOff (host : String) (slot : Slot) (ticket : Nat)
  /-- A node is asked to produce an output, for a flight or else for the running task alone. -/
  | begun (host : String) (slot : Slot) (ticket : Option Nat)
  | producing (what : Announcement) (valve : Option Nat)
  /-- What the node handed over. -/
  | handed (host : String) (slot : Slot) (ticket : Option Nat) (outcome : Except Cause Payload)
  /-- A computation has come to a result, which is kept unless the slot was cleared since. -/
  | landed (host : String) (slot : Slot) (ticket : Nat) (r : Result) (kept : Bool)
  | entered (host : String) (slot : Slot) (pass : Pass)
  /-- An emission looks for a cached result, at first and after every retry. -/
  | looked (host : String) (slot : Slot) (pass : Pass)
  | retrying (host : String) (slot : Slot) (pass : Pass)
  | delivering (host : String) (slot : Slot) (pass : Pass) (r : Result) (subscribers : List Nat)
  | called (host : String) (slot : Slot) (subscriber : Nat) (callback : String) (r : Result)
  | acted (callback : String) (reply : Reply)
  | left (host : String) (slot : Slot) (pass : Pass)
  /-- An emission did not come to its end. -/
  | abandoned (host : String) (slot : Slot) (pass : Pass)
  | panicked (source : PanicSource) (text : String)
  | started (t : Nat) (task : Task)
  | ended (t : Nat) (name : Option String) (how : End)

inductive Level where
  | trace
  | debug
  | warn
deriving DecidableEq, Repr

inductive Field where
  | text (s : String)
  | number (n : Nat)
  | flag (b : Bool)
deriving DecidableEq, Repr

/-- A report of the engine: a message, or the beginning of a span. -/
structure Notice where
  span : Bool
  level : Level
  fields : List (String × Field)
deriving DecidableEq, Repr

namespace Notice

def about (label : String) (node : String) : List (String × Field) :=
  [("pipeline", .text label), ("node", .text node)]

def aboutSlot (label : String) (s : Slot) : List (String × Field) :=
  about label s.node ++ [("output", .text s.output)]

def message (level : Level) (text : String) (fields : List (String × Field)) : Notice :=
  ⟨false, level, ("message", .text text) :: fields⟩

end Notice

open Notice in
/-- What the engine reports of an event; `label` names the pipelines. -/
def Event.notices (label : String → String) : Event → List Notice
  | .built _ => [message .debug "building pipeline" []]
  | .registered host n false => [message .debug "node registered" (about (label host) n.id)]
  | .registered host n true =>
    [message .warn "node re-registered, dropping its cached outputs" (about (label host) n.id)]
  | .postponed host node =>
    [message .debug "no tokio runtime, subscribers refresh on the next invalidation"
      (about (label host) node)]
  | .unregistered host node => [message .debug "node unregistered" (about (label host) node)]
  | .invalidating _ host node keys =>
    [message .debug "invalidating" (about (label host) node ++ [("keys", .number keys.length)])]
  | .landed host slot _ r true =>
    [message .trace "output cached" (aboutSlot (label host) slot ++ [("ok", .flag r.isOk)])]
  | .landed host slot _ _ false =>
    [message .trace "output cleared while computing, result not cached"
      (aboutSlot (label host) slot)]
  | .retrying host slot _ =>
    [message .trace "output cleared before delivery, retrying" (aboutSlot (label host) slot)]
  | .delivering host slot _ _ subscribers =>
    [⟨true, .debug, ("span", .text "emit") :: aboutSlot (label host) slot⟩,
      message .debug "notifying" [("subscribers", .number subscribers.length)]]
  | _ => []

end Dataflow

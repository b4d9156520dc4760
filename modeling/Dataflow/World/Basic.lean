import Dataflow.Event
import Dataflow.Pipeline

/-!
# Worlds

A world is everything that a scene has made so far: pipelines, flights, tasks, subscribers, and the
cells and valves that its nodes read and wait behind. One task at most runs at a time. While it runs
it may drive flights, one inside the other, and `focus` says what is to be done next.
-/

namespace Dataflow

/-- What a held production waits behind. -/
structure Valve where
  /-- Once open, what came with the opening. -/
  opened : Option (Option Outcome) := none
  waiter : Option Waiter := none

structure Subscriber where
  callback : String
  calls : Nat := 0

/-- What is to be done next. The innermost party is the flight being driven, or else the task that
runs. -/
inductive Focus where
  /-- No task runs. -/
  | idle
  /-- The running task is taken up where it was left. -/
  | resume
  /-- The innermost work is taken up where it was left. -/
  | work
  /-- The innermost work goes on with a recipe. -/
  | make (r : Recipe)
  /-- The innermost work has come to its content. -/
  | made (c : Content)
  /-- The innermost party polls a flight. -/
  | poll (h : Handle)
  /-- The flight that the innermost party polled has landed. -/
  | answer (r : Result)
  /-- The innermost party cannot go on. -/
  | stall
  /-- The running task goes on with an emission. -/
  | emission
  /-- The running task turns to the next branch of its fan; the last one is over or has to wait. -/
  | next (finished : Bool)
  /-- The running task ends. -/
  | finish (how : End)
  /-- A panic unwinds to the running task. -/
  | panic (text : String)

structure World where
  /-- Whether deliveries can be spawned. -/
  runtime : Bool := true
  pipelines : Table String Pipeline := ∅
  cells : Table String Outcome := ∅
  /-- What a subscriber does when it is called for the first time, the second time and so on. -/
  scripts : Table String (List (List Action)) := ∅
  valves : List Valve := []
  flights : List Flight := []
  tasks : List Task := []
  /-- The tasks to poll, in order. -/
  queue : List Nat := []
  running : Option Nat := none
  /-- Whether the running task was woken since. -/
  rewoken : Bool := false
  /-- The flights that are being driven, innermost first. -/
  driving : List Nat := []
  /-- How many deliveries the running task has made since it was polled. -/
  deliveries : Nat := 0
  focus : Focus := .idle
  subscribers : List Subscriber := []
  callbacks : Table String Nat := ∅
  subscriptions : Table String Subscription := ∅
  handles : Table String (String × String) := ∅
  removed : Table String Node := ∅
  nextResult : Nat := 0
  /-- What has happened, latest first. -/
  journal : List Event := []

namespace World

def log (w : World) (e : Event) : World := { w with journal := e :: w.journal }

def aim (w : World) (f : Focus) : World := { w with focus := f }

/-- A panic begins, or goes on in the task that runs. -/
def breakDown (w : World) (source : PanicSource) (text : String) : World :=
  (w.log (.panicked source text)).aim (.panic text)

def setFlight (w : World) (ticket : Nat) (f : Flight) : World :=
  { w with flights := w.flights.set ticket f }

def pipeline (w : World) (host : String) : Pipeline := (w.pipelines.get? host).getD {}

def policy (w : World) (host : String) : Policy := (w.pipeline host).setup.policy

def engine (w : World) (host : String) : Engine := (w.pipeline host).engine

def setEngine (w : World) (host : String) (e : Engine) : World :=
  { w with pipelines := w.pipelines.insert host { w.pipeline host with engine := e } }

/-- Builds a pipeline that is used for the first time. -/
def use (w : World) (host : String) : World :=
  let p := w.pipeline host
  if p.setup.inContext && !p.built then
    { w with pipelines := w.pipelines.insert host { p with built := true } }.log (.built host)
  else w

end World

end Dataflow

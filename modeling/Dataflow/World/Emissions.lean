import Dataflow.World.Perform
import Dataflow.World.Works

/-!
# Emissions under way

An emission looks for a cached result, waits for a computation of the slot if there is none, and
then delivers what is cached by that time. Where the slot was cleared since, it starts again.

The subscribers of a delivery are selected and noted at once, and then called one by one. Nothing
else is polled in between, but a subscriber that is called may act on the pipelines.

An emission that has come to the gate of its slot delivers when it is first in line. Where
deliveries can be spawned, a task that has made many of them since it was polled lets other tasks go
first, and its emissions keep their places in line meanwhile.
-/

namespace Dataflow

namespace World

def enter (w : World) (e : Emission) : World :=
  let (pass, engine) := (w.engine e.host).enter e.slot
  ((w.setEngine e.host engine).log (.entered e.host e.slot pass)).setEmission
    { e with progress := .looking pass }

def look (w : World) (e : Emission) (pass : Pass) : World :=
  let engine := w.engine e.host
  let w := w.log (.looked e.host e.slot pass)
  match engine.cached e.slot with
  | some _ => w.setEmission { e with progress := .ready pass engine.clears }
  | none =>
    let (w, h) := w.join e.host e.slot
    (w.setEmission { e with progress := .waiting pass engine.clears h }).aim (.poll h)

/-- The emission is through the gate or gives it up. The next in line is woken. -/
def makeWay (w : World) (e : Emission) (pass : Pass) : World :=
  let engine := w.engine e.host
  let w := w.setEngine e.host (engine.stepOut e.slot pass)
  if engine.isFirst e.slot pass then
    w.wake (((w.engine e.host).line e.slot pass).head?.map (·.2)).toList
  else w

/-- Delivers what is cached, or starts again if the slot was cleared since `clears` were counted. -/
def deliver (w : World) (e : Emission) (pass : Pass) (clears : Nat) : World :=
  let engine := w.engine e.host
  match engine.cached e.slot with
  | some r =>
    let (picked, engine) := engine.select (w.policy e.host) e.slot r
    ((w.setEngine e.host engine).log (.delivering e.host e.slot pass r picked)).setEmission
      { e with progress := .calling pass r picked }
  | none =>
    if engine.clears = clears then
      w.breakDown .engine ("Output '" ++ e.slot.output ++ "' of node '" ++ e.slot.node ++
        "' is not cached right after being computed. Aborting pipeline to avoid infinite loop.")
    else
      ((w.log (.retrying e.host e.slot pass)).makeWay e pass).setEmission
        { e with progress := .looking pass }

/-- How many deliveries a task may make before other tasks go first. -/
def manyDeliveries : Nat := 128

/-- Whether the running task has made so many deliveries that others go first. -/
def sated (w : World) : Bool := w.runtime && decide (manyDeliveries ≤ w.deliveries)

/-- The emission has come to the gate. It delivers if it is first in line and the task may go on. -/
def approach (w : World) (e : Emission) (pass : Pass) (clears : Nat) : World :=
  let engine := (w.engine e.host).lineUp e.slot pass w.self
  let w := w.setEngine e.host engine
  if !engine.isFirst e.slot pass then w.aim .stall
  else if w.sated then (w.wake [w.self]).aim .stall
  else { w with deliveries := w.deliveries + 1 }.deliver e pass clears

/-- The emission is over. -/
def finishEmission (w : World) (e : Emission) (pass : Pass) : World :=
  let w := w.makeWay e pass
  let w := (w.setEngine e.host ((w.engine e.host).leave e.slot pass)).log (.left e.host e.slot pass)
  match w.job with
  | .fan f => (w.setJob (.fan (f.setCurrent none))).aim (.next true)
  | _ => (w.setJob .nothing).aim (.finish .ok)

/-- Calls the next subscriber, which then acts as its script says for this call. -/
def callNext (w : World) (e : Emission) (pass : Pass) (r : Result) : List Nat → World
  | [] => w.finishEmission e pass
  | c :: rest =>
    match w.subscribers[c]? with
    | none => w.setEmission { e with progress := .calling pass r rest }
    | some s =>
      let script := (((w.scripts.get? s.callback).getD [])[s.calls]?).getD []
      let w := { w with subscribers := w.subscribers.set c { s with calls := s.calls + 1 } }
      (w.log (.called e.host e.slot c s.callback r)).setEmission
        { e with progress := .acting pass r rest s.callback script }

/-- Performs the next action of a subscriber that was called. -/
def actNext (w : World) (e : Emission) (pass : Pass) (r : Result) (rest : List Nat)
    (callback : String) : List Action → World
  | [] => w.setEmission { e with progress := .calling pass r rest }
  | a :: script =>
    match w.perform a with
    | (w, .reply reply) =>
      (w.log (.acted callback reply)).setEmission
        { e with progress := .acting pass r rest callback script }
    | (w, .panic text) => w.breakDown .subscriber text

/-- The running task goes on with its emission. -/
def goOn (w : World) : World :=
  match w.party with
  | .emission e =>
    match e.progress with
    | .fresh => w.enter e
    | .looking pass => w.look e pass
    | .waiting _ _ h => w.aim (.poll h)
    | .ready pass clears => w.approach e pass clears
    | .calling pass r rest => w.callNext e pass r rest
    | .acting pass r rest callback script => w.actNext e pass r rest callback script
  | _ => w.aim .stall

/-- Gives up an emission that did not come to its end. -/
def dropEmission (w : World) (e : Emission) : World :=
  match e.progress.pass? with
  | none => w
  | some pass =>
    let w := match e.share? with
      | some h => w.release [] h
      | none => w
    let w := w.makeWay e pass
    (w.setEngine e.host ((w.engine e.host).abandon e.slot pass)).log (.abandoned e.host e.slot pass)

end World

end Dataflow

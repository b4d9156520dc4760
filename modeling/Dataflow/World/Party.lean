import Dataflow.World.Basic

/-!
# The innermost party

While a task runs, the innermost party is the work of the flight that it drives last, or else what
the task itself is concerned with.
-/

namespace Dataflow

inductive Party where
  | work (k : Work)
  | emission (e : Emission)
  /-- It waits for the result of a slot. -/
  | output (host : String) (slot : Slot) (h : Option Handle)
  | nobody

namespace World

def job (w : World) : Job :=
  match w.running.bind (w.tasks[·]?) with
  | some task => task.job
  | none => .nothing

def setJob (w : World) (j : Job) : World :=
  match w.running with
  | some t =>
    match w.tasks[t]? with
    | some task => { w with tasks := w.tasks.set t { task with job := j } }
    | none => w
  | none => w

def party (w : World) : Party :=
  match w.driving with
  | ticket :: _ =>
    match w.flights[ticket]? with
    | some f => .work f.work
    | none => .nobody
  | [] =>
    match w.job with
    | .work k => .work k
    | .emit e => .emission e
    | .fan f =>
      match f.current? with
      | some e => .emission e
      | none => .nobody
    | .output host slot h => .output host slot h
    | _ => .nobody

/-- Puts `k` in the place of the innermost work. -/
def setWork (w : World) (k : Work) : World :=
  match w.driving with
  | ticket :: _ =>
    match w.flights[ticket]? with
    | some f => w.setFlight ticket { f with work := k }
    | none => w
  | [] => w.setJob (.work k)

/-- Puts `e` in the place of the emission that the running task is concerned with. -/
def setEmission (w : World) (e : Emission) : World :=
  match w.job with
  | .fan f => w.setJob (.fan (f.setCurrent (some e)))
  | _ => w.setJob (.emit e)

/-- Whom to wake for the innermost party. -/
def self (w : World) : Waiter :=
  match w.driving with
  | ticket :: _ => .flight ticket
  | [] =>
    let t := w.running.getD 0
    match w.job with
    | .fan f => if f.wide then .branch t f.cursor else .task t
    | _ => .task t

/-- Has the innermost party keep the share in the flight that it waits for. -/
def keep (w : World) (h : Handle) : World :=
  match w.party with
  | .work k =>
    match k.stage with
    | .asking _ rest => w.setWork { k with stage := .asking h rest }
    | _ => w
  | .emission e =>
    match e.progress with
    | .waiting pass clears _ => w.setEmission { e with progress := .waiting pass clears h }
    | _ => w
  | .output host slot _ => w.setJob (.output host slot (some h))
  | .nobody => w

end World

end Dataflow

import Dataflow.World.Basic

/-!
# Waking

A task that is woken goes to the end of the queue. A flight that is woken does not run: it wakes
those who wait for it.
-/

namespace Dataflow

namespace World

def live (w : World) (t : Nat) : Bool :=
  match w.tasks[t]? with
  | some task => task.ended.isNone
  | none => false

def modifyTask (w : World) (t : Nat) (f : Task → Task) : World :=
  match w.tasks[t]? with
  | some task => { w with tasks := w.tasks.set t (f task) }
  | none => w

/-- Puts a task on the queue unless it is there; the running task only when its turn is over. -/
def enqueue (w : World) (t : Nat) : World :=
  if !w.live t then w
  else if w.running = some t then { w with rewoken := true }
  else if w.queue.contains t then w
  else { w with queue := w.queue ++ [t] }

def spawn (w : World) (task : Task) : World × Nat :=
  let t := w.tasks.length
  ({ w with tasks := w.tasks ++ [task], queue := w.queue ++ [t] }.log (.started t task), t)

/-- Wakes one branch of a wide fan, and with it the task if the branch was asleep. -/
def stir (w : World) (t key : Nat) : World :=
  match (w.tasks[t]?).map Task.job with
  | some (.fan f) =>
    let w := w.modifyTask t fun task => { task with job := .fan (f.stir key) }
    if f.asleep key then w.enqueue t else w
  | _ => w

/-- Nobody is left to wake who waits for the flight. -/
def rouse (w : World) (ticket : Nat) : World :=
  match w.flights[ticket]? with
  | some f => { w with flights := w.flights.set ticket { f with seats := f.seats.roused } }
  | none => w

def waitersOf (w : World) (ticket : Nat) : List Waiter :=
  match w.flights[ticket]? with
  | some f => f.seats.waiters
  | none => []

/-- Wakes in order; a flight that is woken first wakes those who wait for it. -/
def wakeWithin : Nat → List Waiter → World → World
  | 0, _, w => w
  | _ + 1, [], w => w
  | k + 1, .task t :: rest, w => wakeWithin k rest (w.enqueue t)
  | k + 1, .branch t key :: rest, w => wakeWithin k rest (w.stir t key)
  | k + 1, .flight f :: rest, w => wakeWithin k (w.waitersOf f ++ rest) (w.rouse f)

/-- Every wake empties a seat, so there are no more of them than seats that are taken. -/
def wake (w : World) (waiters : List Waiter) : World :=
  let seated := w.flights.flatMap fun f => f.seats.waiters
  wakeWithin (waiters.length + seated.length) waiters w

end World

end Dataflow

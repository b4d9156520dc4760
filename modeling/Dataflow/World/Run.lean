import Dataflow.World.Tasks

/-!
# Running

`step` takes the world one step further while a task runs. The queue is run first in, first out,
until it is empty. `Reachable` is the wider notion: whenever no task runs, any action may be
performed and any unfinished task may be polled, whether it is on the queue or not.
-/

namespace Dataflow

namespace World

/-- One step of the running task. -/
def step (w : World) : World :=
  match w.focus with
  | .idle => w
  | .resume => w.resumeTask
  | .work => w.resumeWork
  | .make r => w.makeRecipe r
  | .made c => w.finishWork c
  | .poll h => w.pollFlight h
  | .answer r => w.handAnswer r
  | .stall => w.stall
  | .emission => w.goOn
  | .next finished => w.nextBranch finished
  | .finish how => w.endTask how
  | .panic text => w.unwind text

/-- One step of the running task, or else the beginning of the next one on the queue. -/
def advance (w : World) : World :=
  match w.focus, w.queue with
  | .idle, [] => w
  | .idle, t :: rest => { w with queue := rest }.poll t
  | _, _ => w.step

def settled (w : World) : Bool :=
  match w.focus with
  | .idle => w.queue.isEmpty
  | _ => false

/-- Runs until nothing is left to do, for `fuel` steps at most. -/
def run : Nat → World → World
  | 0, w => w
  | fuel + 1, w => if w.settled then w else run fuel w.advance

/-- Far more steps than a scene takes that comes to rest. -/
def patience : Nat := 100000000

/-- Runs until nothing is left to do. -/
def settle (w : World) : World := w.run patience

/-- What can come of a world. -/
inductive Reachable (start : World) : World → Prop where
  | refl : Reachable start start
  | perform {w : World} (a : Action) (w' : World) (reply : Reply) :
      Reachable start w → w.focus = .idle → w.perform a = (w', .reply reply) → Reachable start w'
  | poll {w : World} (t : Nat) : Reachable start w → w.focus = .idle →
      Reachable start ({ w with queue := w.queue.erase t }.poll t)
  | step {w : World} : Reachable start w → Reachable start w.step

end World

end Dataflow

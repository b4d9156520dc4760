import Dataflow.World.Emissions

/-!
# Tasks under way

A task that is polled is taken up where it was left. It runs until it ends or has to wait, and what
it does in between happens without a break.
-/

namespace Dataflow

namespace World

/-- Puts the running task aside. If it was woken since, it is queued again; if it was cancelled
since, it ends. -/
def pause (w : World) : World :=
  match w.running with
  | none => w.aim .idle
  | some t =>
    if (w.tasks[t]?).any Task.cancelled then w.aim (.finish .cancelled)
    else
      let again := w.rewoken
      let w := { w with running := none, rewoken := false, focus := .idle }
      if again then w.enqueue t else w

/-- A flight whose work has to wait is idle again; a task that has to wait is put aside. -/
def stall (w : World) : World :=
  match w.driving with
  | ticket :: outer =>
    match w.flights[ticket]? with
    | some f => { w.setFlight ticket { f with status := .idle } with driving := outer }.aim .stall
    | none => { w with driving := outer }.aim .stall
  | [] =>
    match w.job with
    | .fan _ => w.aim (.next false)
    | _ => w.pause

def pollBranch (w : World) (f : Fan) (i : Nat) : World :=
  (w.setJob (.fan (f.aimAt i))).aim .emission

/-- No branch is left to be polled. -/
def closeFan (w : World) (f : Fan) : World :=
  let w := w.setJob (.fan f)
  if f.unfinished.isEmpty then w.aim (.finish .ok) else w.pause

/-- Polls the unfinished branches from `i` on. -/
def pollFrom (w : World) (f : Fan) (i : Nat) : World :=
  match f.unfinished.find? (i ≤ ·) with
  | some j => w.pollBranch f j
  | none => w.closeFan f

/-- Polls the next branch of a wide fan that was woken. -/
def pollReady (w : World) (f : Fan) : World :=
  match f.ready.dropWhile fun i => !f.unfinished.contains i with
  | i :: rest => w.pollBranch { f with ready := rest } i
  | [] => w.closeFan { f with ready := [] }

def startFan (w : World) (f : Fan) : World :=
  if f.wide then w.pollReady f.beginTurn else w.pollFrom f 0

/-- Turns to the next branch; the last one is over or has to wait. -/
def nextBranch (w : World) (finished : Bool) : World :=
  match w.job with
  | .fan f =>
    if !f.wide then w.pollFrom f (f.cursor + 1)
    else if finished then w.pollReady f.beginTurn
    else
      let f := f.countWait
      if f.yields then { w.setJob (.fan f) with rewoken := true }.pause else w.pollReady f
  | _ => w.pause

/-- Clears the slots of a node that an invalidation names, and starts to emit them. -/
def startInvalidation (w : World) (host node : String) (keys : Option (List String)) : World :=
  match (w.engine host).node node with
  | .error f => w.aim (.finish (.failed f))
  | .ok n =>
    let keys := keys.getD n.outputs.names
    let w := w.log (.invalidating (w.running.getD 0) host node keys)
    let w := keys.foldl (fun w k => w.clear host ⟨node, k⟩) w
    w.startFan (Fan.of host node keys)

/-- Takes the running task up where it was left. -/
def resumeTask (w : World) : World :=
  match w.job with
  | .output host slot none =>
    match (w.engine host).cached slot with
    | some r => w.aim (.finish (.result r))
    | none =>
      let (w, h) := w.join host slot
      (w.setJob (.output host slot (some h))).aim (.poll h)
  | .output _ _ (some h) => w.aim (.poll h)
  | .compute host slot =>
    (w.setJob (.work { host, slot, target := (w.engine host).lookUp slot })).aim .work
  | .work _ => w.aim .work
  | .invalidate host node keys => w.startInvalidation host node keys
  | .fan f => w.startFan f
  | .emit _ => w.aim .emission
  | .follow t =>
    match (w.tasks[t]?).bind Task.ended with
    | some (.panicked text) => w.breakDown .former text
    | some _ => w.aim (.finish .ok)
    | none => (w.modifyTask t fun task => { task with follower := w.running }).pause
  | .nothing => w.aim (.finish .ok)

/-- A task that was lent a subscription takes the first delivery from it. -/
def takeDelivery (w : World) (t : Nat) : Option (String × Subscription) → World
  | none => w
  | some (name, _) =>
    match w.subscriptions.get? name with
    | none => w
    | some s =>
      if s.borrower = some t then
        { w with
          subscriptions := w.subscriptions.insert name { s with delivery := s.delivery.take t } }
      else w

/-- Begins to poll a task. One that was cancelled ends at once. -/
def poll (w : World) (t : Nat) : World :=
  match w.tasks[t]? with
  | none => w
  | some task =>
    if task.ended.isSome then w
    else
      let polled := { w with running := some t, rewoken := false, deliveries := 0 }
      if task.cancelled then polled.aim (.finish .cancelled)
      else (polled.takeDelivery t task.holding).aim .resume

/-- Gives up one branch of the fan of the running task. -/
def dropBranch (w : World) (i : Nat) : World :=
  match w.job with
  | .fan f =>
    match f.branch? i with
    | some e => (w.setJob (.fan ((f.aimAt i).setCurrent none))).dropEmission e
    | none => w
  | _ => w

/-- Gives up everything that the job of the running task holds, one thing after the other. -/
def dropJob (w : World) : World :=
  match w.job with
  | .output _ _ (some h) => (w.setJob .nothing).release [] h
  | .work k =>
    match k.share? with
    | some h => (w.setJob .nothing).release [] h
    | none => w
  | .emit e => (w.setJob .nothing).dropEmission e
  | .fan f => f.leaving.foldl dropBranch w
  | _ => w

/-- What the innermost party held is gone when a panic comes. The share in a flight that it polled
is not given up. -/
def forget (w : World) : World :=
  match w.party with
  | .work k => w.setWork { k with stage := .away }
  | .emission e =>
    let e := match e.progress with
      | .waiting pass _ _ => { e with progress := .looking pass }
      | _ => e
    match w.job with
    | .fan f => (w.setJob (.fan (f.setCurrent none))).dropEmission e
    | _ => (w.setJob .nothing).dropEmission e
  | .output host slot _ => w.setJob (.output host slot none)
  | .nobody => w

/-- A panic breaks the flights that are being driven, and ends the running task. -/
def unwind (w : World) (text : String) : World :=
  let w := w.forget
  match w.driving with
  | ticket :: outer =>
    match w.flights[ticket]? with
    | some f => { w.setFlight ticket { f with status := .broken } with driving := outer }
    | none => { w with driving := outer }
  | [] => w.aim (.finish (.panicked text))

/-- A subscription that the task owned while it waited goes back under its name, unless something is
kept there; with a task that was cancelled it is lost. One that the task was lent is still there. -/
def putBack (w : World) (holding : Option (String × Subscription)) (how : End) : World :=
  match holding, how with
  | _, .cancelled => w
  | some (name, sub), _ =>
    if w.subscriptions.contains name then w
    else { w with subscriptions := w.subscriptions.insert name sub }
  | none, _ => w

/-- The running task is over. What it held is given up, and those who follow it are woken. -/
def endTask (w : World) (how : End) : World :=
  match w.running with
  | none => w.aim .idle
  | some t =>
    match w.tasks[t]? with
    | none => { w with running := none, focus := .idle }
    | some task =>
      let w := w.dropJob.modifyTask t fun task =>
        { task with job := .nothing, ended := some how, holding := none }
      let w := (w.log (.ended t task.name how)).putBack task.holding how
      let w := { w with running := none, rewoken := false, focus := .idle }
      match task.follower with
      | some follower => w.enqueue follower
      | none => w

end World

end Dataflow

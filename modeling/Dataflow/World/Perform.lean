import Dataflow.World.Shares
import Dataflow.World.Waking

/-!
# Performing actions

An action is performed at once and without a break. What takes longer becomes a task.
-/

namespace Dataflow

namespace World

/-- What performing an action leads to. -/
inductive Performed where
  | reply (r : Reply)
  | panic (text : String)

/-- A reply, and the world after it. -/
def replies (w : World) (r : Reply) : World × Performed := (w, .reply r)

def spawnEmission (w : World) (host : String) (s : Slot) : World × Nat :=
  w.spawn { job := .emit { host, slot := s } }

/-- Registers a node. Where it replaces another one, subscribed outputs are emitted again. -/
def register (w : World) (host : String) (n : Node) : World :=
  let e := w.engine host
  let replaced := e.nodes.contains n.id
  let w := (w.setEngine host (e.register n)).log (.registered host n replaced)
  let w := if replaced then w.ground e n.id else w
  let subscribed := (e.subscriptions.entries n.id).names
  if !replaced || subscribed.isEmpty then w
  else if w.runtime then subscribed.foldl (fun w o => (w.spawnEmission host ⟨n.id, o⟩).1) w
  else w.log (.postponed host n.id)

def unregister (w : World) (host id : String) : World × Performed :=
  let e := w.engine host
  match e.nodes.get? id with
  | none => w.replies .nothing
  | some n =>
    let w := (w.setEngine host (e.unregister id)).log (.unregistered host id)
    { w.ground e id with removed := w.removed.insert id n }.replies (.node n)

/-- The unfinished task of that name. -/
def taskNamed? (w : World) (name : String) : Option Nat :=
  w.tasks.findIdx? fun task => task.name == some name && task.ended.isNone

/-- Starts a task under a name that no unfinished task has. -/
def start (w : World) (name : String) (j : Job) : World × Performed :=
  if (w.taskNamed? name).isSome then w.replies (.refused .taskExists)
  else (w.spawn { name := some name, job := j }).1.replies .nothing

/-- Whether an unfinished task has borrowed the subscription. -/
def lent (w : World) (s : Subscription) : Bool := s.borrower.any w.live

/-- Hands a subscription over to the task that is started next: the task borrows it, or else takes
it from its name. -/
def handOver (w : World) (sub : String) (s : Subscription) (lent : Bool) : World :=
  { w with
    subscriptions :=
      if lent then w.subscriptions.insert sub { s with borrower := some w.tasks.length }
      else w.subscriptions.erase sub }

/-- Starts a task that waits for the first delivery of a subscription. Nobody else can wait for it
as long as the task is under way. -/
def await (w : World) (name sub : String) (lent : Bool) : World × Performed :=
  if (w.taskNamed? name).isSome then w.replies (.refused .taskExists)
  else
    match w.subscriptions.get? sub with
    | none => w.replies (.refused .noSubscription)
    | some s =>
      if w.lent s then w.replies (.refused .noSubscription)
      else
        let task : Task :=
          { name := some name, job := s.delivery.job, holding := some (sub, s.spent w.tasks.length) }
        ((w.handOver sub s lent).spawn task).1.replies .nothing

def cancel (w : World) (name : String) : World × Performed :=
  match w.taskNamed? name with
  | none => w.replies (.refused .noTask)
  | some t =>
    ((w.modifyTask t fun task => { task with cancelled := true }).enqueue t).replies .nothing

/-- The subscriber behind a name, made on first use. -/
def subscriberOf (w : World) (callback : String) : World × Nat :=
  match w.callbacks.get? callback with
  | some c => (w, c)
  | none =>
    let c := w.subscribers.length
    ({ w with
        subscribers := w.subscribers ++ [⟨callback, 0⟩]
        callbacks := w.callbacks.insert callback c }, c)

def subscribe (w : World) (host sub : String) (s : Slot) (callback : String) : World :=
  let (w, c) := w.subscriberOf callback
  let w := (w.setEngine host ((w.engine host).subscribe s c)).log (.subscribed host s c sub)
  let (w, delivery) :=
    if w.runtime then
      let (w, t) := w.spawnEmission host s
      (w, Delivery.spawned t)
    else (w, Delivery.deferred { host, slot := s })
  { w with
    subscriptions := w.subscriptions.insert sub { host, slot := s, subscriber := c, delivery } }

/-- Removes every registration of a subscriber on a slot. -/
def withdraw (w : World) (host : String) (s : Slot) (c : Nat) : World :=
  (w.setEngine host ((w.engine host).unsubscribe s c)).log (.unsubscribed host s c)

def unsubscribe (w : World) (host : String) (s : Slot) (callback : String) : World :=
  let (w, c) := w.subscriberOf callback
  w.withdraw host s c

def openValves (w : World) : List Nat :=
  (List.range w.valves.length).filter fun i =>
    match w.valves[i]? with
    | some v => v.opened.isNone
    | none => false

def chosen? (w : World) : ValveChoice → Option Nat
  | .number n => w.openValves.find? fun i => (i : Int) == n
  | .first => w.openValves.head?
  | .last => w.openValves.getLast?

def resolve (w : World) (choice : ValveChoice) (o : Option Outcome) : World × Performed :=
  match w.chosen? choice with
  | none => w.replies (.refused .noValve)
  | some i =>
    let waiter := (w.valves[i]?).bind Valve.waiter
    let w := { w with valves := w.valves.set i { opened := some o } }
    (w.wake waiter.toList).replies (.number i)

def perform (w : World) : Action → World × Performed
  | .settle => w.replies .nothing
  | .setCell cell o => { w with cells := w.cells.insert cell o }.replies .nothing
  | .register host n handle =>
    let w := (w.use host).register host n
    { w with handles := w.handles.insert handle (host, n.id) }.replies (.text n.id)
  | .unregister host id => (w.use host).unregister host id
  | .restore host id =>
    match w.removed.get? id with
    | none => w.replies (.refused .noRemoved)
    | some n => ((w.use host).register host n).replies (.text n.id)
  | .reregister host id =>
    let w := w.use host
    match (w.engine host).node id with
    | .error f => w.replies (.failure f)
    | .ok n => (w.register host n).replies (.text n.id)
  | .getNode host id =>
    let w := w.use host
    match (w.engine host).node id with
    | .error f => w.replies (.failure f)
    | .ok n => w.replies (.node n)
  | .getSchema host slot p =>
    let w := w.use host
    match (w.engine host).outputSchema slot, p with
    | .error f, _ => w.replies (.failure f)
    | .ok _, none => w.replies .schemaFound
    | .ok schema, some p =>
      match schema.check p with
      | .accepted => w.replies .valid
      | .rejected d => w.replies (.invalid d)
      | .crashed text => (w, .panic text)
  | .cached host slot =>
    let w := w.use host
    match (w.engine host).cached slot with
    | some r => w.replies (.cached r)
    | none => w.replies .nothing
  | .initialized host =>
    let p := w.pipeline host
    if p.setup.inContext then w.replies (.flag p.built) else w.replies .nothing
  | .describe host =>
    let w := w.use host
    w.replies (.text (w.pipeline host).describe)
  | .compute host name slot => (w.use host).start name (.compute host slot)
  | .output host name slot => (w.use host).start name (.output host slot none)
  | .invalidate host name node keys => (w.use host).start name (.invalidate host node keys)
  | .invalidateBy host name handle keys =>
    match w.handles.get? handle with
    | none => w.replies (.refused .noHandle)
    | some (owner, node) => (w.use host).start name (.invalidate owner node keys)
  | .subscribe host sub slot callback =>
    ((w.use host).subscribe host sub slot callback).replies .nothing
  | .unsubscribe host slot callback =>
    ((w.use host).unsubscribe host slot callback).replies .nothing
  | .unsubscribeBy sub =>
    match w.subscriptions.get? sub with
    | none => w.replies (.refused .noSubscription)
    | some s => (w.withdraw s.host s.slot s.subscriber).replies .nothing
  | .dropSubscription sub =>
    { w with subscriptions := w.subscriptions.erase sub }.replies
      (.flag (w.subscriptions.contains sub))
  | .dropCallback callback =>
    { w with callbacks := w.callbacks.erase callback }.replies
      (.flag (w.callbacks.contains callback))
  | .await name sub lent => w.await name sub lent
  | .resolve choice o => w.resolve choice o
  | .cancel name => w.cancel name
  | .panic text => (w, .panic text)
  | .unknown name => w.replies (.refused (.unknownAction name))

end World

end Dataflow

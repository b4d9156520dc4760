import Dataflow.Proofs.History
import Dataflow.World.Basic
import Mathlib.Tactic.Lemma

/-!
# Ledgers

The ledger of a world leaves out who is to be woken, which flight is being driven and whose turn it
is. What is left changes in few ways, which are the moves below: every step of a world comes down to
some of them.
-/

namespace Dataflow

/-- How far an emission has come. -/
inductive Phase where
  | fresh
  | looking (pass : Pass)
  /-- It has looked, and goes by what was there. -/
  | looked (pass : Pass)
  | waiting (pass : Pass) (clears ticket : Nat)
  | ready (pass : Pass) (clears : Nat)
  /-- The subscribers in `rest` are still to be called. -/
  | calling (pass : Pass) (r : Result) (rest : List Nat)

/-- Whether the subscribers are still to be selected. -/
def Phase.isOpen : Phase → Bool
  | .calling _ _ _ => false
  | _ => true

def Phase.pass? : Phase → Option Pass
  | .fresh => none
  | .looking pass | .looked pass | .waiting pass _ _ | .ready pass _ | .calling pass _ _ => some pass

/-- An emission in a ledger. -/
structure Errand where
  host : String
  slot : Slot
  phase : Phase

/-- A task in a ledger. -/
structure Duty where
  name : Option String
  errands : Nat → Option Errand
  follows : Option Nat
  ended : Option End

/-- A flight in a ledger. -/
structure Departure where
  host : String
  slot : Slot
  target : Except Failure (Node × Schema)
  landed : Option Result

def Progress.phase : Progress → Phase
  | .fresh => .fresh
  | .looking pass => .looking pass
  | .waiting pass clears h => .waiting pass clears h.ticket
  | .ready pass clears => .ready pass clears
  | .calling pass r rest => .calling pass r rest
  | .acting pass r rest _ _ => .calling pass r rest

def Emission.errand (e : Emission) : Errand := ⟨e.host, e.slot, e.progress.phase⟩

/-- The emission of branch `i`. -/
def Job.emission? (j : Job) (i : Nat) : Option Emission :=
  match j with
  | .emit e => if i = 0 then some e else none
  | .fan f => f.branch? i
  | _ => none

def Job.errands (j : Job) (i : Nat) : Option Errand := (j.emission? i).map Emission.errand

def Job.follows : Job → Option Nat
  | .follow t => some t
  | _ => none

def Task.duty (task : Task) : Duty := ⟨task.name, task.job.errands, task.job.follows, task.ended⟩

def Status.result? : Status → Option Result
  | .landed r => some r
  | _ => none

def Flight.departure (f : Flight) : Departure :=
  ⟨f.work.host, f.work.slot, f.work.target, f.status.result?⟩

def Delivery.isTaken : Delivery → Bool
  | .taken _ => true
  | _ => false

@[simp] lemma Delivery.isTaken_take (d : Delivery) (t : Nat) : (d.take t).isTaken = true := by
  cases d <;> rfl

/-- The subscription as if nobody had borrowed it. -/
def Subscription.returned (s : Subscription) : Subscription := { s with borrower := none }

structure Ledger where
  runtime : Bool
  policy : String → Policy
  engine : String → Engine
  flights : List Departure
  duties : List Duty
  shelf : String → Option Subscription
  subscribers : Nat
  results : Nat
  journal : List Event

def World.ledger (w : World) : Ledger where
  runtime := w.runtime
  policy := w.policy
  engine := w.engine
  flights := w.flights.map Flight.departure
  duties := w.tasks.map Task.duty
  shelf := fun name => (w.subscriptions.get? name).map Subscription.returned
  subscribers := w.subscribers.length
  results := w.nextResult
  journal := w.journal

/-- The engine with all slots of these keys cleared. -/
def Engine.clearAll (e : Engine) (node : String) (keys : List String) : Engine :=
  keys.foldl (fun e k => e.clear ⟨node, k⟩) e

namespace Ledger

variable (b : Ledger)

def log (e : Event) : Ledger := { b with journal := e :: b.journal }

def setEngine (host : String) (e : Engine) : Ledger :=
  { b with engine := fun h => if host = h then e else b.engine h }

def errand? (t i : Nat) : Option Errand := (b.duties[t]?).bind fun d => d.errands i

def setErrand (t i : Nat) (x : Option Errand) : Ledger :=
  { b with
    duties := b.duties.modify t fun d =>
      { d with errands := fun j => if i = j then x else d.errands j } }

def spawn (task : Task) : Ledger :=
  { b with duties := b.duties ++ [task.duty] }.log (.started b.duties.length task)

def takeOff (host : String) (s : Slot) : Ledger :=
  let e := b.engine host
  let ticket := b.flights.length
  let departure : Departure := ⟨host, s, e.target s, none⟩
  ({ b with flights := b.flights ++ [departure] }.setEngine host (e.takeOff s ticket)).log
    (.takenOff host s ticket)

def land (ticket : Nat) (d : Departure) (c : Content) : Ledger :=
  let e := b.engine d.host
  let r : Result := ⟨b.results, c⟩
  ({ b with
      flights := b.flights.set ticket { d with landed := some r }
      results := b.results + 1 }.setEngine d.host (e.land d.slot ticket r)).log
    (.landed d.host d.slot ticket r (e.flying d.slot = some ticket))

/-- What a registration does to the engine. -/
def enlist (host : String) (n : Node) : Ledger :=
  (b.setEngine host ((b.engine host).register n)).log
    (.registered host n ((b.engine host).nodes.contains n.id))

def register (host : String) (n : Node) : Ledger :=
  if (b.engine host).nodes.contains n.id && b.runtime then
    ((b.engine host).subscriptions.entries n.id).names.foldl
      (fun b o => b.spawn (.emitting host ⟨n.id, o⟩)) (b.enlist host n)
  else b.enlist host n

def unregister (host id : String) : Ledger :=
  (b.setEngine host ((b.engine host).unregister id)).log (.unregistered host id)

/-- What a subscription does to the engine. -/
def enrol (host : String) (s : Slot) (c : Nat) (name : String) : Ledger :=
  (b.setEngine host ((b.engine host).subscribe s c)).log (.subscribed host s c name)

def putOnShelf (name : String) (s : Subscription) : Ledger :=
  { b with shelf := fun n => if name = n then some s else b.shelf n }

def subscribe (host : String) (s : Slot) (c : Nat) (name : String) : Ledger :=
  if b.runtime then
    ((b.enrol host s c name).spawn (.emitting host s)).putOnShelf name
      { host, slot := s, subscriber := c, delivery := .spawned b.duties.length }
  else (b.enrol host s c name).putOnShelf name
    { host, slot := s, subscriber := c, delivery := .deferred { host, slot := s } }

def unsubscribe (host : String) (s : Slot) (c : Nat) : Ledger :=
  (b.setEngine host ((b.engine host).unsubscribe s c)).log (.unsubscribed host s c)

def invalidate (t : Nat) (d : Duty) (host node : String) (keys : List String) : Ledger :=
  { (b.setEngine host ((b.engine host).clearAll node keys)).log
      (.invalidating t host node keys) with
    duties := b.duties.set t
      { d with errands := fun i => (keys[i]?).map fun k => ⟨host, ⟨node, k⟩, .fresh⟩ } }

/-- Takes a pass for the gate of the slot. -/
def takePass (host : String) (s : Slot) : Ledger :=
  (b.setEngine host ((b.engine host).enter s).2).log (.entered host s ((b.engine host).enter s).1)

def enter (t i : Nat) (x : Errand) : Ledger :=
  (b.takePass x.host x.slot).setErrand t i
    (some { x with phase := .looking ((b.engine x.host).enter x.slot).1 })

def look (t i : Nat) (x : Errand) (pass : Pass) : Ledger :=
  (b.log (.looked x.host x.slot pass)).setErrand t i (some { x with phase := .looked pass })

def select (t i : Nat) (x : Errand) (pass : Pass) (r : Result) : Ledger :=
  let selected := (b.engine x.host).select (b.policy x.host) x.slot r
  ((b.setEngine x.host selected.2).log (.delivering x.host x.slot pass r selected.1)).setErrand t i
    (some { x with phase := .calling pass r selected.1 })

def call (t i : Nat) (x : Errand) (pass : Pass) (r : Result) (c : Nat) (rest : List Nat)
    (callback : String) : Ledger :=
  (b.log (.called x.host x.slot c callback r)).setErrand t i
    (some { x with phase := .calling pass r rest })

/-- The errand does not come to its end. -/
def drop (t i : Nat) (x : Errand) : Ledger :=
  match x.phase.pass? with
  | some pass => (b.log (.abandoned x.host x.slot pass)).setErrand t i none
  | none => b.setErrand t i none

def finish (t : Nat) (d : Duty) (how : End) (engine : String → Engine) (extra : List Event) :
    Ledger :=
  { b with
    engine
    duties := b.duties.set t { d with errands := fun _ => none, follows := none, ended := some how }
    journal := .ended t d.name how :: (extra ++ b.journal) }

/-- Nobody is being called, and nobody is about to be. -/
def Silent : Prop := ∀ t i x, b.errand? t i = some x → x.phase.isOpen = true

/-- Nobody is being called by another emission. -/
def Sole (t i : Nat) : Prop :=
  ∀ t' i' x, b.errand? t' i' = some x → x.phase.isOpen = false → t' = t ∧ i' = i

/-- What an emission that still has to select subscribers can come to. -/
inductive Advances (x : Errand) : Phase → Prop where
  | found (pass : Pass) (r : Result) : x.phase = .looked pass →
      (b.engine x.host).cached x.slot = some r →
      Advances x (.ready pass (b.engine x.host).clears)
  | wait (pass : Pass) (ticket : Nat) : x.phase = .looked pass →
      (b.engine x.host).flying x.slot = some ticket →
      Advances x (.waiting pass (b.engine x.host).clears ticket)
  | answer (pass : Pass) (clears ticket : Nat) (d : Departure) (r : Result) :
      x.phase = .waiting pass clears ticket → b.flights[ticket]? = some d → d.landed = some r →
      Advances x (.ready pass clears)
  | retry (pass : Pass) (clears : Nat) : x.phase = .ready pass clears →
      (b.engine x.host).cached x.slot = none → Advances x (.looking pass)

/-- Nothing but notes, gates and counts has changed. -/
structure Quiet (b b' : Ledger) : Prop where
  runtime : b'.runtime = b.runtime
  policy : b'.policy = b.policy
  engine : ∀ host, (b.engine host).Regated (b'.engine host)
  flights : b'.flights = b.flights
  duties : b'.duties = b.duties
  shelf : ∀ name s, b'.shelf name = some s → b.shelf name = some s ∨ s.delivery.isTaken = true
  subscribers : b.subscribers ≤ b'.subscribers
  results : b.results ≤ b'.results
  journal : ∃ notes, b'.journal = notes ++ b.journal ∧ ∀ e ∈ notes, e.isNote = true

/-- What a task that is started waits for was on the shelf. -/
def Backs (task : Task) (name : String) (s : Subscription) : Prop :=
  s.delivery.isTaken = true ∧
    match task.job with
    | .nothing => True
    | .follow t => b.shelf name = some { s with delivery := .spawned t }
    | .emit e => b.shelf name = some { s with delivery := .deferred e }
    | _ => False

/-- How a task may end. -/
structure Ends (t : Nat) (d : Duty) (how : End) (engine : String → Engine) (extra : List Event) :
    Prop where
  duty : b.duties[t]? = some d
  going : d.ended = none
  silent : b.Silent
  proper : how.proper = true → (∀ i, b.errand? t i = none) ∧
    ∀ t', d.follows = some t' → ∃ d' how', b.duties[t']? = some d' ∧ d'.ended = some how' ∧
      ∀ text, how' ≠ .panicked text
  cancelled : how = .cancelled → d.name.isSome = true
  panicked : ∀ text, how = .panicked text → Journal.Panicked b.journal
  engine : ∀ host, (b.engine host).Regated (engine host)
  extra : ∀ e ∈ extra, ∃ host s pass, e = .abandoned host s pass

/-- The elementary changes of a ledger. -/
inductive Move : Ledger → Ledger → Prop where
  | quiet {b b' : Ledger} : Quiet b b' → Move b b'
  | takeOff {b : Ledger} (host : String) (s : Slot) : (b.engine host).cached s = none →
      (b.engine host).flying s = none → Move b (b.takeOff host s)
  | begin {b : Ledger} (host : String) (s : Slot) (ticket : Nat) :
      (∃ past, b.journal = .takenOff host s ticket :: past) →
      Move b (b.log (.begun host s (some ticket)))
  | land {b : Ledger} (ticket : Nat) (d : Departure) (c : Content) :
      b.flights[ticket]? = some d → d.landed = none → Move b (b.land ticket d c)
  | register {b : Ledger} (host : String) (n : Node) : Move b (b.register host n)
  | unregister {b : Ledger} (host id : String) : (b.engine host).nodes.contains id = true →
      Move b (b.unregister host id)
  | subscribe {b : Ledger} (host : String) (s : Slot) (c : Nat) (name : String) :
      c < b.subscribers → Move b (b.subscribe host s c name)
  | unsubscribe {b : Ledger} (host : String) (s : Slot) (c : Nat) :
      Move b (b.unsubscribe host s c)
  | start {b : Ledger} (task : Task) : task.ended = none →
      (∀ i x, task.job.errands i = some x → x.phase = .fresh) →
      (∀ name s, task.holding = some (name, s) → b.Backs task name s) → Move b (b.spawn task)
  | invalidate {b : Ledger} (t : Nat) (d : Duty) (host node : String) (keys : List String) :
      b.duties[t]? = some d → (∀ i, d.errands i = none) → d.follows = none → d.ended = none →
      (b.engine host).nodes.contains node = true → Move b (b.invalidate t d host node keys)
  | enter {b : Ledger} (t i : Nat) (x : Errand) : b.errand? t i = some x → x.phase = .fresh →
      Move b (b.enter t i x)
  | look {b : Ledger} (t i : Nat) (x : Errand) (pass : Pass) : b.errand? t i = some x →
      x.phase = .looking pass → Move b (b.look t i x pass)
  | advance {b : Ledger} (t i : Nat) (x : Errand) (p : Phase) : b.errand? t i = some x →
      b.Advances x p → Move b (b.setErrand t i (some { x with phase := p }))
  | select {b : Ledger} (t i : Nat) (x : Errand) (pass : Pass) (clears : Nat) (r : Result) :
      b.errand? t i = some x → x.phase = .ready pass clears → b.Silent →
      (b.engine x.host).cached x.slot = some r → Move b (b.select t i x pass r)
  | call {b : Ledger} (t i : Nat) (x : Errand) (pass : Pass) (r : Result) (c : Nat)
      (rest : List Nat) (callback : String) : b.errand? t i = some x →
      x.phase = .calling pass r (c :: rest) → Move b (b.call t i x pass r c rest callback)
  | leave {b : Ledger} (t i : Nat) (x : Errand) (pass : Pass) (r : Result) :
      b.errand? t i = some x → x.phase = .calling pass r [] → Move b (b.setErrand t i none)
  | drop {b : Ledger} (t i : Nat) (x : Errand) : b.errand? t i = some x →
      (∃ source text past, b.journal = .panicked source text :: past) → b.Sole t i →
      Move b (b.drop t i x)
  | panic {b : Ledger} (source : PanicSource) (text : String) :
      (source = .former → Journal.Panicked b.journal) →
      (source = .engine → ∃ t i x pass, b.errand? t i = some x ∧
        x.phase = .ready pass (b.engine x.host).clears ∧
        (b.engine x.host).cached x.slot = none) →
      (source ≠ .subscriber → b.Silent) → Move b (b.log (.panicked source text))
  | finish {b : Ledger} (t : Nat) (d : Duty) (how : End) (engine : String → Engine)
      (extra : List Event) : b.Ends t d how engine extra → Move b (b.finish t d how engine extra)

/-- A sequence of moves. -/
inductive Moves : Ledger → Ledger → Prop where
  | refl (b : Ledger) : Moves b b
  | head {b b' b'' : Ledger} : Move b b' → Moves b' b'' → Moves b b''

lemma Moves.single {b b' : Ledger} (h : Move b b') : Moves b b' := .head h (.refl b')

lemma Moves.trans {b b' b'' : Ledger} (h : Moves b b') (h' : Moves b' b'') : Moves b b'' := by
  induction h with
  | refl _ => exact h'
  | head hm _ ih => exact .head hm (ih h')

/-- Whatever every move keeps is kept by all of them together. -/
lemma Moves.keep {P : Ledger → Prop} (hP : ∀ b b', P b → Move b b' → P b') {b b' : Ledger}
    (h : Moves b b') (hb : P b) : P b' := by
  induction h with
  | refl _ => exact hb
  | head hm _ ih => exact ih (hP _ _ hb hm)

lemma quiet_log {b : Ledger} {e : Event} (he : e.isNote = true) : Quiet b (b.log e) :=
  ⟨rfl, rfl, fun host => .refl (b.engine host), rfl, rfl, fun _ _ h => .inl h, Nat.le_refl _,
    Nat.le_refl _, [e], rfl, by simpa using he⟩

lemma quiet_setEngine {b : Ledger} {host : String} {e : Engine}
    (he : (b.engine host).Regated e) : Quiet b (b.setEngine host e) := by
  refine ⟨rfl, rfl, ?_, rfl, rfl, fun _ _ h => .inl h, Nat.le_refl _, Nat.le_refl _, [], rfl,
    by simp⟩
  intro h
  by_cases hh : host = h
  · subst hh
    simpa [setEngine] using he
  · simpa [setEngine, hh] using Engine.Regated.refl (b.engine h)

lemma quiet_engine {b : Ledger} (engine : String → Engine)
    (he : ∀ host, (b.engine host).Regated (engine host)) : Quiet b { b with engine } :=
  ⟨rfl, rfl, he, rfl, rfl, fun _ _ h => .inl h, Nat.le_refl _, Nat.le_refl _, [], rfl, by simp⟩

/-- To put an errand where it is changes nothing. -/
lemma setErrand_self {b : Ledger} {t i : Nat} {x : Errand} (h : b.errand? t i = some x) :
    b.setErrand t i (some x) = b := by
  obtain ⟨d, hd, hi⟩ := Option.bind_eq_some_iff.mp h
  have hset : (fun j => if i = j then some x else d.errands j) = d.errands := by
    funext j
    by_cases hj : i = j
    · subst hj
      rw [if_pos rfl, hi]
    · rw [if_neg hj]
  have hm : (b.duties.modify t fun d =>
      { d with errands := fun j => if i = j then some x else d.errands j }) = b.duties := by
    apply List.ext_getElem?
    intro k
    rw [List.getElem?_modify]
    by_cases hk : t = k
    · subst hk
      simp [hd, hset]
    · simp [hk]
  unfold setErrand
  rw [hm]

/-- What is put in the place of an errand last is there. -/
@[simp] lemma setErrand_setErrand (b : Ledger) (t i : Nat) (x y : Option Errand) :
    (b.setErrand t i x).setErrand t i y = b.setErrand t i y := by
  have hm : ((b.duties.modify t fun d =>
      { d with errands := fun j => if i = j then x else d.errands j }).modify t fun d =>
        { d with errands := fun j => if i = j then y else d.errands j }) =
      b.duties.modify t fun d =>
        { d with errands := fun j => if i = j then y else d.errands j } := by
    apply List.ext_getElem?
    intro k
    rw [List.getElem?_modify, List.getElem?_modify, List.getElem?_modify]
    by_cases hk : t = k
    · cases b.duties[k]? with
      | none => simp [hk]
      | some d =>
        have hset : (fun j => if i = j then y else if i = j then x else d.errands j) =
            fun j => if i = j then y else d.errands j := by
          funext j
          by_cases hj : i = j <;> simp [hj]
        simp [hk, hset]
    · simp [hk]
  unfold setErrand
  rw [hm]

end Ledger

end Dataflow

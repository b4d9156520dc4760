import Dataflow.Event

/-!
# Histories

A journal is read from its latest event back. What it says about a slot, a node or a subscriber is
said by the latest event that has something to say about it, so that every question put to a
journal here is a search for that event. `Lawful` journals are those in which each event is borne
out by the events before it.
-/

namespace Dataflow

namespace Event

/-- Whether the event drops what is cached or in flight for a slot. -/
def clears (host : String) (s : Slot) : Event → Bool
  | .registered h n replaced => h == host && n.id == s.node && replaced
  | .unregistered h id => h == host && id == s.node
  | .invalidating _ h node keys => h == host && node == s.node && keys.contains s.output
  | _ => false

def ofNode (host id : String) : Event → Option (Option Node)
  | .registered h n _ => if h = host ∧ n.id = id then some (some n) else none
  | .unregistered h i => if h = host ∧ i = id then some none else none
  | _ => none

def ofLanding (host : String) (s : Slot) : Event → Option Result
  | .landed h j _ r kept => if h = host ∧ j = s ∧ kept = true then some r else none
  | _ => none

def ofDeparture (host : String) (s : Slot) : Event → Option Nat
  | .takenOff h j ticket => if h = host ∧ j = s then some ticket else none
  | _ => none

def ofCache (host : String) (s : Slot) (e : Event) : Option (Option Result) :=
  if e.clears host s then some none else (e.ofLanding host s).map some

def ofFlight (host : String) (s : Slot) (e : Event) : Option (Option Nat) :=
  if e.clears host s ∨ (e.ofLanding host s).isSome then some none
  else (e.ofDeparture host s).map some

def ofRoll (host : String) (s : Slot) (c : Nat) : Event → Option Bool
  | .subscribed h j d _ => if h = host ∧ j = s ∧ d = c then some true else none
  | .unsubscribed h j d => if h = host ∧ j = s ∧ d = c then some false else none
  | _ => none

def ofCall (host : String) (c : Nat) : Event → Option Result
  | .called h _ d _ r => if h = host ∧ d = c then some r else none
  | _ => none

def ofOffer (host : String) (c : Nat) : Event → Option (Slot × Result)
  | .delivering h j _ r picked => if h = host ∧ c ∈ picked then some (j, r) else none
  | _ => none

/-- A delivery that does not come to its end owes nothing any more. -/
def ofDebt (host : String) (c : Nat) (e : Event) : Option (Option (Slot × Result)) :=
  match e with
  | .abandoned _ _ _ => some none
  | _ => if (e.ofCall host c).isSome then some none else (e.ofOffer host c).map some

def ofPromise (host : String) (c : Nat) (e : Event) : Option Result :=
  (e.ofCall host c).or ((e.ofOffer host c).map Prod.snd)

/-- The slot that branch `i` of a task is to emit. -/
def begins (t i : Nat) : Event → Option (String × Slot)
  | .started u task =>
    match task.job with
    | .emit e => if u = t ∧ i = 0 then some (e.host, e.slot) else none
    | _ => none
  | .invalidating u host node keys =>
    if u = t then (keys[i]?).map fun k => (host, ⟨node, k⟩) else none
  | _ => none

def isDeparture : Event → Bool
  | .takenOff _ _ _ => true
  | _ => false

def isStart : Event → Bool
  | .started _ _ => true
  | _ => false

/-- Notes say nothing about what an engine holds, who is called and which tasks there are. -/
def isNote : Event → Bool
  | .built _ | .postponed _ _ | .producing _ _ | .handed _ _ _ _ | .entered _ _ _ => true
  | .retrying _ _ _ | .acted _ _ | .left _ _ _ => true
  | .begun _ _ ticket => ticket.isNone
  | _ => false

end Event

namespace Journal

/-- What the latest event says that has something to say. -/
def latest {α : Type} (f : Event → Option (Option α)) (l : List Event) : Option α :=
  (l.findSome? f).join

/-- The node that is registered. -/
def node (host id : String) (l : List Event) : Option Node := latest (Event.ofNode host id) l

/-- What a computation of the slot works with that is started now. -/
def target (host : String) (s : Slot) (l : List Event) : Except Failure (Node × Schema) :=
  match node host s.node l with
  | none => .error (.nodeNotFound s.node)
  | some n =>
    match n.outputs.get? s.output with
    | some schema => .ok (n, schema)
    | none => .error (.outputNotFound s.node s.output)

/-- The result that is cached. -/
def cached (host : String) (s : Slot) (l : List Event) : Option Result :=
  latest (Event.ofCache host s) l

/-- The computation that may still be cached. -/
def flying (host : String) (s : Slot) (l : List Event) : Option Nat :=
  latest (Event.ofFlight host s) l

/-- Whether a subscriber is registered on the slot. -/
def enrolled (host : String) (s : Slot) (c : Nat) (l : List Event) : Bool :=
  (l.findSome? (Event.ofRoll host s c)).getD false

/-- The result that a subscriber was called with last. -/
def heard (host : String) (c : Nat) (l : List Event) : Option Result :=
  l.findSome? (Event.ofCall host c)

/-- The result that a subscriber was selected for and is still to be called with. -/
def owed (host : String) (c : Nat) (l : List Event) : Option (Slot × Result) :=
  latest (Event.ofDebt host c) l

/-- The result that a subscriber was called with or selected for last. -/
def promised (host : String) (c : Nat) (l : List Event) : Option Result :=
  l.findSome? (Event.ofPromise host c)

/-- Whether a subscriber is registered on any slot. -/
def Registered (host : String) (c : Nat) (l : List Event) : Prop :=
  ∃ s, enrolled host s c l = true

/-- The result that a subscriber was selected for last, if it has been registered ever since. -/
def Recalls (host : String) (c : Nat) (r : Result) : List Event → Prop
  | [] => False
  | e :: past => Registered host c (e :: past) ∧
    match e.ofOffer host c with
    | some p => p.2 = r
    | none => Recalls host c r past

def departures (l : List Event) : Nat := l.countP Event.isDeparture

def starts (l : List Event) : Nat := l.countP Event.isStart

def Panicked (l : List Event) : Prop := ∃ source text, .panicked source text ∈ l

/-- No node and no subscriber has panicked. -/
def Unharmed (l : List Event) : Prop :=
  ∀ text, .panicked .node text ∉ l ∧ .panicked .subscriber text ∉ l

/-- The slot was delivered from. -/
def Emitted (host : String) (s : Slot) (l : List Event) : Prop :=
  ∃ pass r picked, .delivering host s pass r picked ∈ l

/-- The result comes from a computation that was started within `l`. -/
def Fresh (host : String) (s : Slot) (r : Result) (l : List Event) : Prop :=
  ∃ ticket, .takenOff host s ticket ∈ l ∧ .landed host s ticket r true ∈ l

end Journal

/-- The task came to the end of what it had to do. -/
def End.proper : End → Bool
  | .panicked _ => false
  | .cancelled => false
  | _ => true

/-- A task that emits a slot and does nothing else. -/
def Task.emitting (host : String) (s : Slot) : Task := { job := .emit { host, slot := s } }

/-- The first delivery that a task waits for is that of the subscription kept under `name`, which
was the latest of that name. -/
def Job.Awaits (job : Job) (name : String) (s : Subscription) (past : List Event) : Prop :=
  match job with
  | .nothing => True
  | .follow t =>
    ∃ later earlier, (∀ host j c, .subscribed host j c name ∉ later) ∧
      past = later ++ .started t (.emitting s.host s.slot) ::
        .subscribed s.host s.slot s.subscriber name :: earlier
  | .emit e =>
    e.host = s.host ∧ e.slot = s.slot ∧
      ∃ later earlier, (∀ host j c, .subscribed host j c name ∉ later) ∧
        past = later ++ .subscribed s.host s.slot s.subscriber name :: earlier
  | _ => False

open Journal in
/-- What has to be the case for an event to happen after `past`. -/
def Event.Fits (policy : String → Policy) (past : List Event) : Event → Prop
  | .registered host n replaced => replaced = (node host n.id past).isSome
  | .unregistered host id => (node host id past).isSome = true
  | .invalidating t _ _ _ =>
    (∃ task, .started t task ∈ past) ∧ ∀ name how, .ended t name how ∉ past
  | .takenOff host s ticket =>
    cached host s past = none ∧ flying host s past = none ∧ ticket = departures past
  | .landed host s ticket r kept =>
    .takenOff host s ticket ∈ past ∧ kept = decide (flying host s past = some ticket) ∧
      ∀ host' s' ticket' r' kept', .landed host' s' ticket' r' kept' ∈ past →
        ticket' ≠ ticket ∧ r'.id < r.id
  | .begun host s ticket => ∀ t, ticket = some t → ∃ older, past = .takenOff host s t :: older
  | .looked host s pass =>
    ∀ later earlier, past = later ++ .looked host s pass :: earlier →
      ∃ e ∈ later, e.clears host s = true
  | .delivering host s _ r picked =>
    cached host s past = some r ∧ (∀ host' c, owed host' c past = none) ∧
      (∀ c ∈ picked, enrolled host s c past = true) ∧
      (∀ c, enrolled host s c past = true → c ∈ picked ∨
        ∃ last, promised host c past = some last ∧ (policy host).same last r = true) ∧
      ∀ c ∈ picked, ∀ last, Recalls host c last past → (policy host).same last r = false
  | .called host s c _ r => owed host c past = some (s, r)
  | .abandoned _ _ _ =>
    (∀ host c, owed host c past = none) ∨
      ∃ source text older, past = .panicked source text :: older
  | .panicked source _ =>
    source ≠ .engine ∧ (source = .former → Panicked past) ∧
      (source ≠ .subscriber → ∀ host c, owed host c past = none)
  | .started t task =>
    t = starts past ∧ ∀ name s, task.holding = some (name, s) → task.job.Awaits name s past
  | .ended t name how =>
    (∀ name' how', .ended t name' how' ∉ past) ∧ (∀ host c, owed host c past = none) ∧
      (∃ task, .started t task ∈ past ∧ task.name = name) ∧
      (how = .cancelled → name.isSome = true) ∧
      (∀ text, how = .panicked text → Panicked past) ∧
      (how.proper = true →
        (∀ later e earlier i host s, past = later ++ e :: earlier →
          e.begins t i = some (host, s) → Emitted host s later ∨ Panicked later) ∧
        ∀ task t', .started t task ∈ past → task.job = .follow t' →
          ∃ name' how', .ended t' name' how' ∈ past ∧ ∀ text, how' ≠ .panicked text)
  | _ => True

/-- Every event fits what happened before it. -/
def Lawful (policy : String → Policy) : List Event → Prop
  | [] => True
  | e :: past => e.Fits policy past ∧ Lawful policy past

end Dataflow

import Dataflow.Proofs.Frames
import Dataflow.Proofs.Lawful
import Dataflow.Proofs.Ledger

/-!
# Poised worlds

A world is `Poised` when everything in it hangs together and `focus` can be followed: the flights
being driven are waited for, one by the next, subscribers are being called by the running task
alone, works go on with what their nodes make of the answers, and nobody waits for a flight that was
lost.
-/

namespace Dataflow

/-- What a recipe can go on with. -/
inductive Recipe.Leads : Recipe → Recipe → Prop where
  | refl (r : Recipe) : Leads r r
  | peek {r : Recipe} {cell : String} {rest : Option Outcome → Recipe} (found : Option Outcome) :
      Leads r (.peek cell rest) → Leads r (rest found)
  | announce {r rest : Recipe} {what : Announcement} : Leads r (.announce what rest) → Leads r rest
  | hold {r : Recipe} {what : Announcement} {rest : Option Outcome → Recipe}
      (o : Option Outcome) : Leads r (.hold what rest) → Leads r (rest o)
  | ask {r : Recipe} {host : String} {slot : Slot} {rest : Content → Recipe} (c : Content) :
      Leads r (.ask host slot rest) → Leads r (rest c)

namespace Work

/-- The recipe is one that the node of the work has come to. -/
def Follows (k : Work) (r : Recipe) : Prop :=
  ∃ n schema, k.target = .ok (n, schema) ∧ (n.produce k.slot.output).Leads r

/-- The work goes on with what its node makes of the answer. -/
def Sound (k : Work) : Prop :=
  match k.stage with
  | .held _ rest => ∀ o, k.Follows (rest o)
  | .asking _ rest => ∀ c, k.Follows (rest c)
  | _ => True

/-- The work can come to this content. -/
def Yields (k : Work) (c : Content) : Prop :=
  (∃ f, k.target = .error f ∧ c = .error f) ∨
    ∃ handed, k.Follows (.finish handed) ∧ k.judge handed = .ok c

end Work

namespace Party

def share? : Party → Option Handle
  | .work k => k.share?
  | .emission e => e.share?
  | .output _ _ h => h
  | .nobody => none

/-- The ticket of the flight that is waited for. -/
def awaits (p : Party) : Option Nat := p.share?.map Handle.ticket

/-- `q` is what may come of `p`. -/
def Succeeds (q p : Party) : Prop :=
  match q, p with
  | .work k, .work k' => k.host = k'.host ∧ k.slot = k'.slot ∧ k.target = k'.target
  | .emission e, .emission e' => e.host = e'.host ∧ e.slot = e'.slot
  | .output host slot _, .output host' slot' _ => host = host' ∧ slot = slot'
  | _, _ => False

end Party

namespace Job

def party : Job → Party
  | .work k => .work k
  | .emit e => .emission e
  | .fan f =>
    match f.current? with
    | some e => .emission e
    | none => .nobody
  | .output host slot h => .output host slot h
  | _ => .nobody

def setParty (j : Job) : Party → Job
  | .work k => .work k
  | .emission e =>
    match j with
    | .fan f => .fan (f.setCurrent (some e))
    | _ => .emit e
  | .output host slot h => .output host slot h
  | .nobody => j

/-- The branch that is being polled. -/
def cursor : Job → Nat
  | .fan f => f.cursor
  | _ => 0

end Job

/-- The innermost party while the flights `driving` are driven. -/
def partyAt (flights : List Flight) (j : Job) : List Nat → Party
  | [] => j.party
  | ticket :: _ =>
    match flights[ticket]? with
    | some f => .work f.work
    | none => .nobody

/-- Each of the flights is waited for by the party that drives it. -/
def Linked (flights : List Flight) (j : Job) : List Nat → Prop
  | [] => True
  | ticket :: outer =>
    (partyAt flights j outer).awaits = some ticket ∧ Linked flights j outer

/-- The flight is one of that slot. -/
def Serves (flights : List Flight) (ticket : Nat) (host : String) (s : Slot) : Prop :=
  ∃ f, flights[ticket]? = some f ∧ f.work.host = host ∧ f.work.slot = s

def Alive (flights : List Flight) (ticket : Nat) : Prop :=
  ∃ f, flights[ticket]? = some f ∧ f.status ≠ .lost

/-- The job waits for flights of the right slots. -/
structure Job.Tidy (flights : List Flight) (j : Job) : Prop where
  sound : ∀ k, j = .work k → k.Sound
  output : ∀ host s h, j = .output host s (some h) → Serves flights h.ticket host s
  emission : ∀ i e h, j.emission? i = some e → e.share? = some h →
    Serves flights h.ticket e.host e.slot

/-- What is always true of a task. -/
structure Task.Tidy (journal : List Event) (flights : List Flight) (task : Task) : Prop where
  named : task.cancelled = true → task.name.isSome = true
  taken : ∀ name s, task.holding = some (name, s) → s.delivery.isTaken = true
  panicked : ∀ text, task.ended = some (.panicked text) → Journal.Panicked journal
  job : task.job.Tidy flights

/-- What is always true of a flight. -/
structure Flight.Tidy (journal : List Event) (f : Flight) : Prop where
  broken : f.status = .broken → Journal.Panicked journal
  sound : f.work.Sound
  yields : ∀ r, f.status = .landed r → f.work.Yields r.content

namespace World

def emission? (w : World) (t i : Nat) : Option Emission :=
  (w.tasks[t]?).bind fun task => task.job.emission? i

/-- Whether subscribers are being called. -/
def Silent (w : World) : Prop :=
  ∀ t i e, w.emission? t i = some e → e.progress.phase.isOpen = true

/-- Subscribers are being called by the innermost party at most. -/
def Hushed (w : World) : Prop :=
  ∀ t i e, w.emission? t i = some e → e.progress.phase.isOpen = false →
    w.driving = [] ∧ w.running = some t ∧ i = w.job.cursor

/-- Everything in the world hangs together. -/
structure Steady (w : World) : Prop where
  tasks : ∀ (t : Nat) task, w.tasks[t]? = some task → task.Tidy w.journal w.flights
  flights : ∀ (ticket : Nat) f, w.flights[ticket]? = some f → f.Tidy w.journal
  runs : ∀ t, w.running = some t → ∃ task, w.tasks[t]? = some task ∧ task.ended = none
  callbacks : ∀ name c, w.callbacks.get? name = some c → c < w.subscribers.length
  shelf : ∀ name s e, w.subscriptions.get? name = some s → s.delivery = .deferred e →
    e.progress = .fresh
  driven : ∀ ticket ∈ w.driving, ∃ f, w.flights[ticket]? = some f ∧ f.status = .driven
  nodup : w.driving.Nodup
  linked : Linked w.flights w.job w.driving
  flying : ∀ host s ticket, (w.engine host).flying s = some ticket → Serves w.flights ticket host s
  safe : ∀ ticket, w.Holds ticket → Alive w.flights ticket

/-- How the running task may end. -/
structure MayEnd (w : World) (how : End) : Prop where
  cancelled : how = .cancelled → ∀ t task, w.running = some t → w.tasks[t]? = some task →
    task.name.isSome = true
  panicked : ∀ text, how = .panicked text → Journal.Panicked w.journal
  finished : how.proper = true → ∀ i, w.job.emission? i = none
  followed : how.proper = true → ∀ t, w.job.follows = some t →
    ∃ task how', w.tasks[t]? = some task ∧ task.ended = some how' ∧ ∀ text, how' ≠ .panicked text

/-- The focus can be followed. -/
def Aimed (w : World) : Focus → Prop
  | .idle => w.Silent ∧ w.driving = [] ∧ w.running = none
  | .resume => w.Silent ∧ w.driving = []
  | .work => w.Silent
  | .make r => w.Silent ∧ ∃ k, w.party = .work k ∧ k.Follows r
  | .made c => w.Silent ∧ ∃ k, w.party = .work k ∧ k.Yields c
  | .poll h => w.Silent ∧ w.party.awaits = some h.ticket
  | .answer r => w.Silent ∧
      ∃ ticket f, w.party.awaits = some ticket ∧ w.flights[ticket]? = some f ∧ f.status = .landed r
  | .stall => w.Silent
  | .emission => w.Hushed ∧ w.driving = []
  | .next _ => w.Silent ∧ w.driving = []
  | .finish how => w.Silent ∧ w.driving = [] ∧ w.MayEnd how
  | .panic _ => w.Hushed ∧ ∃ source text past, w.journal = .panicked source text :: past

structure Poised (w : World) : Prop where
  steady : w.Steady
  aimed : w.Aimed w.focus

lemma party_eq (w : World) : w.party = partyAt w.flights w.job w.driving := by
  unfold party partyAt Job.party
  cases w.driving with
  | nil => rfl
  | cons ticket outer => rfl

/-- Puts a party in the place of the innermost one. -/
def setParty (w : World) : Party → World
  | .work k => w.setWork k
  | .emission e => w.setEmission e
  | .output host slot h => w.setJob (.output host slot h)
  | .nobody => w

end World

end Dataflow

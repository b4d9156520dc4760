import Dataflow.Proofs.SideBySide
import Dataflow.Scene
import Mathlib.Order.Monotone.Basic

/-!
# Sides

The nodes of a world can be parted into two sides. Flights, tasks, valves, results and passes go by
numbers that are handed out in the order in which they come up, and where one side comes up alone
its numbers are others. A `Side` tells what each of them is in the whole. Everything that carries such
numbers can be renamed.
-/

namespace Dataflow

/-- What goes by numbers that are handed out in order. Every engine numbers its own passes. -/
inductive Numbered where
  | flight
  | task
  | valve
  | result
  | pass (host : String)
deriving DecidableEq

/-- Some of the nodes with the subscribers that are theirs, and what the numbers of a world of these
nodes alone are in the whole. -/
structure Side where
  nodes : String → Bool
  own : Nat → Bool
  number : Numbered → Nat → Nat
  subscriber : Nat → Nat
  strictMono : ∀ k, StrictMono (number k)
  subscriber_injective : Function.Injective subscriber

instance : CoeFun Side fun _ => Numbered → Nat → Nat := ⟨Side.number⟩

namespace Side

variable (S : Side)

@[simp] lemma number_inj {k : Numbered} {i j : Nat} : S k i = S k j ↔ i = j :=
  (S.strictMono k).injective.eq_iff

@[simp] lemma subscriber_inj {i j : Nat} : S.subscriber i = S.subscriber j ↔ i = j :=
  S.subscriber_injective.eq_iff

/-- Every node and every subscriber is on one of the two sides, and so is every number. -/
structure Opposite (S T : Side) : Prop where
  nodes : ∀ id, T.nodes id = !S.nodes id
  own : ∀ c, T.own c = !S.own c
  apart : ∀ k i j, S k i ≠ T k j
  cover : ∀ k n, (∃ i, S k i = n) ∨ ∃ j, T k j = n

variable {S} {T : Side}

lemma Opposite.symm (h : S.Opposite T) : T.Opposite S where
  nodes := fun id => by rw [h.nodes, Bool.not_not]
  own := fun c => by rw [h.own, Bool.not_not]
  apart := fun k i j he => h.apart k j i he.symm
  cover := fun k n => (h.cover k n).symm

lemma Opposite.other (h : S.Opposite T) {id : String} (hn : S.nodes id = true) :
    T.nodes id = false := by
  rw [h.nodes, hn]
  rfl

end Side

/-- Where `n` numbers were handed out, `m` of them were on the side. -/
def Counts (f : Nat → Nat) (n m : Nat) : Prop := ∀ i, f i < n ↔ i < m

namespace Counts

variable {f : Nat → Nat} {n m : Nat}

/-- If the next number is on the side, it is the next one of the side. -/
lemma next (h : Counts f n m) (hf : StrictMono f) (hn : n ∈ Set.range f) : f m = n := by
  obtain ⟨i, rfl⟩ := hn
  have hi : ¬i < m := fun hlt => Nat.lt_irrefl _ ((h i).mpr hlt)
  have hm : ¬f m < f i := fun hlt => Nat.lt_irrefl m ((h m).mp hlt)
  exact Nat.le_antisymm (hf.monotone (Nat.le_of_not_lt hi)) (Nat.le_of_not_lt hm)

/-- Everything up to a number of the side was handed out. -/
lemma upto (hf : StrictMono f) (hn : f m = n) : Counts f (n + 1) (m + 1) := by
  intro i
  rw [Nat.lt_succ_iff, Nat.lt_succ_iff, ← hn]
  exact hf.le_iff_le

lemma succ_other (h : Counts f n m) (hn : ∀ i, f i ≠ n) : Counts f (n + 1) m := by
  intro i
  rw [← h i]
  have hne := hn i
  omega

end Counts

variable (S : Side)

def Result.rename (r : Result) : Result := ⟨S .result r.id, r.content⟩

def Handle.rename (h : Handle) : Handle := ⟨S .flight h.ticket, h.seat⟩

def Waiter.rename : Waiter → Waiter
  | .task t => .task (S .task t)
  | .branch t key => .branch (S .task t) key
  | .flight ticket => .flight (S .flight ticket)

def Seats.rename (s : Seats) : Seats := ⟨s.rows.map (Option.map (Waiter.rename S)), s.vacant⟩

def Stage.rename : Stage → Stage
  | .fresh => .fresh
  | .held valve rest => .held (S .valve valve) rest
  | .asking h rest => .asking (h.rename S) rest
  | .away => .away

def Work.rename (k : Work) : Work := { k with stage := k.stage.rename S }

def Status.rename : Status → Status
  | .landed r => .landed (r.rename S)
  | status => status

def Flight.rename (f : Flight) : Flight := ⟨f.work.rename S, f.status.rename S, f.seats.rename S⟩

def Valve.rename (v : Valve) : Valve := { v with waiter := v.waiter.map (Waiter.rename S) }

def Pass.rename (host : String) (pass : Pass) : Pass :=
  ⟨S (.pass host) pass.gate, S (.pass host) pass.number⟩

def Gate.rename (host : String) (g : Gate) : Gate where
  id := S (.pass host) g.id
  holders := g.holders.map (S (.pass host))
  line := g.line.map fun p => (S (.pass host) p.1, p.2.rename S)

def Delivered.rename (d : Delivered) : Delivered :=
  { d with result := d.result.map (Result.rename S) }

def End.rename : End → End
  | .result r => .result (r.rename S)
  | how => how

/-- An emission that is still to be waited for has no numbers. -/
def Delivery.rename : Delivery → Delivery
  | .spawned t => .spawned (S .task t)
  | .deferred e => .deferred e
  | .taken t => .taken (S .task t)

def Subscription.rename (s : Subscription) : Subscription :=
  { s with
    subscriber := S.subscriber s.subscriber
    delivery := s.delivery.rename S
    borrower := s.borrower.map (S .task) }

lemma Delivery.rename_take (d : Delivery) (t : Nat) :
    (d.take t).rename S = (d.rename S).take (S .task t) := by
  cases d <;> rfl

def Reply.rename : Reply → Reply
  | .number i => .number (S .valve i)
  | .cached r => .cached (r.rename S)
  | reply => reply

/-- The tasks that are started keep the numbers in what they have to do. -/
def Event.rename : Event → Event
  | .subscribed host slot c name => .subscribed host slot (S.subscriber c) name
  | .unsubscribed host slot c => .unsubscribed host slot (S.subscriber c)
  | .invalidating t host node keys => .invalidating (S .task t) host node keys
  | .takenOff host slot ticket => .takenOff host slot (S .flight ticket)
  | .begun host slot ticket => .begun host slot (ticket.map (S .flight))
  | .producing what valve => .producing what (valve.map (S .valve))
  | .handed host slot ticket outcome => .handed host slot (ticket.map (S .flight)) outcome
  | .landed host slot ticket r kept => .landed host slot (S .flight ticket) (r.rename S) kept
  | .entered host slot pass => .entered host slot (pass.rename S host)
  | .looked host slot pass => .looked host slot (pass.rename S host)
  | .retrying host slot pass => .retrying host slot (pass.rename S host)
  | .delivering host slot pass r picked =>
    .delivering host slot (pass.rename S host) (r.rename S) (picked.map S.subscriber)
  | .called host slot c callback r => .called host slot (S.subscriber c) callback (r.rename S)
  | .acted callback reply => .acted callback (reply.rename S)
  | .left host slot pass => .left host slot (pass.rename S host)
  | .abandoned host slot pass => .abandoned host slot (pass.rename S host)
  | .started t task => .started (S .task t) task
  | .ended t name how => .ended (S .task t) name (how.rename S)
  | e => e

def Focus.rename : Focus → Focus
  | .poll h => .poll (h.rename S)
  | .answer r => .answer (r.rename S)
  | .finish how => .finish (how.rename S)
  | focus => focus

variable {S}

lemma Seats.sit_rename (s : Seats) (seat : Option Nat) (who : Waiter) :
    (s.rename S).sit seat (who.rename S) = ((s.sit seat who).1, (s.sit seat who).2.rename S) := by
  obtain ⟨rows, vacant⟩ := s
  cases seat with
  | some i => simp [sit, rename]
  | none =>
    cases vacant with
    | nil => simp [sit, rename]
    | cons i rest => simp [sit, rename]

lemma Seats.giveUp_rename (s : Seats) (i : Nat) :
    (s.rename S).giveUp i = (s.giveUp i).rename S := by
  simp [giveUp, rename]

lemma Seats.roused_rename (s : Seats) : (s.rename S).roused = s.roused.rename S := by
  simp only [roused, rename, List.map_map]
  rfl

lemma Seats.waiters_rename (s : Seats) :
    (s.rename S).waiters = s.waiters.map (Waiter.rename S) := by
  obtain ⟨rows, vacant⟩ := s
  show (rows.map (Option.map (Waiter.rename S))).filterMap id = (rows.filterMap id).map _
  rw [List.filterMap_map, List.map_filterMap]
  rfl

lemma Seats.waiters_roused (s : Seats) : s.roused.waiters = [] := by
  simp [roused, waiters]

lemma Work.judge_rename (k : Work) (handed : Except Cause Payload) :
    (k.rename S).judge handed = k.judge handed := rfl

lemma Work.share?_rename (k : Work) : (k.rename S).share? = k.share?.map (Handle.rename S) := by
  obtain ⟨host, slot, target, stage⟩ := k
  cases stage <;> rfl

/-- The recipe comes to its end without asking for other slots. -/
def Recipe.AsksNothing : Recipe → Prop
  | .finish _ | .crash _ => True
  | .peek _ rest => ∀ o, AsksNothing (rest o)
  | .announce _ rest => AsksNothing rest
  | .hold _ rest => ∀ o, AsksNothing (rest o)
  | .ask _ _ _ => False

/-- The producer of the node does not call into pipelines. -/
def Node.AsksNothing (n : Node) : Prop := ∀ output, (n.produce output).AsksNothing

/-- The work neither asks nor will ask for other slots. -/
structure Work.AsksNothing (k : Work) : Prop where
  target : ∀ n schema, k.target = .ok (n, schema) → n.AsksNothing
  held : ∀ valve rest, k.stage = .held valve rest → ∀ o, (rest o).AsksNothing
  asking : ∀ h rest, k.stage ≠ .asking h rest

lemma Work.AsksNothing.share? {k : Work} (h : k.AsksNothing) : k.share? = none := by
  unfold Work.share?
  cases hs : k.stage with
  | asking own rest => exact absurd hs (h.asking own rest)
  | _ => rfl

lemma Work.AsksNothing.away {k : Work} (h : k.AsksNothing) :
    ({ k with stage := .away } : Work).AsksNothing :=
  ⟨h.target, by rintro _ _ ⟨⟩, by rintro _ _ ⟨⟩⟩

/-- The policy goes by the contents of two results unless they are one and the same. -/
def Policy.Blind (p : Policy) : Prop :=
  ∀ old new old' new' : Result, old.content = old'.content → new.content = new'.content →
    (old.id = new.id ↔ old'.id = new'.id) → p.same old new = p.same old' new'

lemma Policy.Blind.same_rename {p : Policy} (h : p.Blind) (old new : Result) :
    p.same (old.rename S) (new.rename S) = p.same old new :=
  h _ _ _ _ rfl rfl S.number_inj

lemma Policy.blind_identity : Policy.identity.Blind := by
  intro old new old' new' _ _ hid
  simp only [same, beq_eq_decide, hid]

lemma Policy.blind_json : Policy.json.Blind := by
  intro old new old' new' ho hn hid
  simp only [same, beq_eq_decide, hid, ho, hn]

lemma Policy.Blind.has_rename {p : Policy} (h : p.Blind) (r : Result) (d : Delivered) :
    (d.rename S).has p (r.rename S) = d.has p r := by
  obtain ⟨result, registrations⟩ := d
  cases result with
  | none => rfl
  | some last => exact h.same_rename last r

namespace NameMap

variable {α β : Type}

/-- The same names, with other values. -/
def mapValues (g : α → β) (m : NameMap α) : NameMap β := m.map fun p => (p.1, g p.2)

variable (g : α → β) (m : NameMap α)

@[simp] lemma get?_mapValues (n : String) : (m.mapValues g).get? n = (m.get? n).map g := by
  induction m with
  | nil => rfl
  | cons p rest ih =>
    obtain ⟨k, a⟩ := p
    by_cases hk : k = n
    · simp [mapValues, get?, hk]
    · simpa [mapValues, get?, hk] using ih

lemma insert_mapValues (n : String) (a : α) :
    (m.mapValues g).insert n (g a) = (m.insert n a).mapValues g := by
  induction m with
  | nil => rfl
  | cons p rest ih =>
    obtain ⟨k, b⟩ := p
    by_cases hk : n = k
    · simp [mapValues, insert, hk]
    · by_cases hl : n < k
      · simp [mapValues, insert, hk, hl]
      · simpa [mapValues, insert, hk, hl] using ih

lemma erase_mapValues (n : String) : (m.mapValues g).erase n = (m.erase n).mapValues g := by
  simp only [mapValues, erase, List.filter_map]
  rfl

@[simp] lemma names_mapValues : (m.mapValues g).names = m.names := by
  simp [mapValues, names]

end NameMap

namespace Gate

variable (g : Gate) (host : String)

lemma rename_erase (n : Nat) : ({ g with holders := g.holders.erase n } : Gate).rename S host =
    { g.rename S host with holders := (g.rename S host).holders.erase (S (.pass host) n) } := by
  simp [rename, List.map_erase ((S.strictMono (.pass host)).injective)]

lemma rename_lineUp (n : Nat) (who : Waiter) :
    ({ g with line := g.line ++ [(n, who)] } : Gate).rename S host =
      { g.rename S host with
        line := (g.rename S host).line ++ [(S (.pass host) n, who.rename S)] } := by
  simp [rename]

lemma rename_stepOut (n : Nat) :
    ({ g with line := g.line.filter (·.1 != n) } : Gate).rename S host =
      { g.rename S host with
        line := (g.rename S host).line.filter (·.1 != S (.pass host) n) } := by
  have hsame : ((fun p : Nat × Waiter => p.1 != S (.pass host) n) ∘
      fun p : Nat × Waiter => (S (.pass host) p.1, p.2.rename S)) = fun p => p.1 != n := by
    funext p
    simp [bne, beq_eq_decide]
  simp only [rename, List.filter_map, hsame]

end Gate

end Dataflow

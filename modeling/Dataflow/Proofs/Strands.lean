import Dataflow.Proofs.EngineStrands
import Dataflow.Proofs.SideTables
import Dataflow.Proofs.Steady
import Dataflow.World.Run

/-!
# Worlds of two strands

A world whose nodes are on two sides is made of two strands, each of which is a world of one side
alone. While a task runs its strand leads: the whole does what that strand does, and the other one
rests. The orders in which tasks are queued are not compared.
-/

namespace Dataflow

variable {S T : Side}

/-- The recipe that is being made. -/
def Focus.recipe? : Focus → Option Recipe
  | .make r => some r
  | _ => none

/-- The node that an event is about. -/
def Event.node? : Event → Option String
  | .registered _ n _ => some n.id
  | .postponed _ node | .unregistered _ node | .invalidating _ _ node _ => some node
  | .subscribed _ slot _ _ | .unsubscribed _ slot _ | .takenOff _ slot _ | .begun _ slot _
  | .handed _ slot _ _ | .landed _ slot _ _ _ | .entered _ slot _ | .looked _ slot _
  | .retrying _ slot _ | .delivering _ slot _ _ _ | .called _ slot _ _ _ | .left _ slot _
  | .abandoned _ slot _ => some slot.node
  | .built _ | .producing _ _ | .acted _ _ | .panicked _ _ | .started _ _ | .ended _ _ _ => none

@[simp] lemma Event.node?_rename (e : Event) : (e.rename S).node? = e.node? := by
  cases e <;> rfl

/-- Whether the event is about a node of the side. -/
def Side.about (S : Side) (e : Event) : Bool := e.node?.any S.nodes

namespace World

/-- What `w` holds for one side is what `v` holds, but for the numbers. -/
structure Strand (S : Side) (w v : World) : Prop where
  runtime : w.runtime = v.runtime
  cells : w.cells = v.cells
  scripts : w.scripts = v.scripts
  setup : ∀ host, (w.pipeline host).setup = (v.pipeline host).setup
  blind : ∀ host, (v.policy host).Blind
  engine : ∀ host, (w.engine host).Strand S host (v.engine host)
  flights : Threads (S .flight) (Flight.Resembles S) w.flights v.flights
  tasks : Threads (S .task) (Task.Resembles S) w.tasks v.tasks
  valves : Threads (S .valve) (fun x x' => x = x'.rename S) w.valves v.valves
  results : Counts (S .result) w.nextResult v.nextResult
  roster : Roster S w.subscribers w.callbacks v.subscribers v.callbacks
  subscriptions : Shelf S w.subscriptions v.subscriptions
  handles : ∀ name host id, w.handles.get? name = some (host, id) → S.nodes id = true →
    v.handles.get? name = some (host, id)
  removed : ∀ id, S.nodes id = true → w.removed.get? id = v.removed.get? id
  known : ∀ id n, v.removed.get? id = some n → n.id = id ∧ n.AsksNothing
  journal : w.journal.filter S.about = (v.journal.filter S.about).map (Event.rename S)

lemma Strand.policy {w v : World} (h : w.Strand S v) (host : String) :
    w.policy host = v.policy host :=
  congrArg Setup.policy (h.setup host)

lemma setup_setEngine (w : World) (host i : String) (e : Engine) :
    ((w.setEngine host e).pipeline i).setup = (w.pipeline i).setup := by
  unfold World.setEngine pipeline
  rw [Table.get?_insert]
  by_cases hi : host = i
  · rw [if_pos hi, hi]
    rfl
  · rw [if_neg hi]

/-- The world `w` is made of the strands `v` and `u`, and does what `v` does. -/
structure Lead (S T : Side) (v u w : World) : Prop where
  opposite : S.Opposite T
  own : w.Strand S v
  other : w.Strand T u
  running : w.running = v.running.map (S .task)
  driving : w.driving = v.driving.map (S .flight)
  deliveries : v.running ≠ none → w.deliveries = v.deliveries
  focus : w.focus = v.focus.rename S
  alone : ∀ r, v.focus = .make r → r.AsksNothing

namespace Lead

variable {v u w : World}

lemma aim (h : Lead S T v u w) (f : Focus) (ha : ∀ r, f = .make r → r.AsksNothing) :
    Lead S T (v.aim f) u (w.aim (f.rename S)) :=
  { h with own := { h.own with }, other := { h.other with }, focus := rfl, alone := ha }

lemma shift (h : Lead S T v u w) (f : Focus) (hf : f.recipe? = none) :
    Lead S T (v.aim f) u (w.aim (f.rename S)) := by
  refine h.aim f ?_
  rintro r rfl
  cases hf

lemma withQueue (h : Lead S T v u w) (queue queue' : List Nat) (rewoken rewoken' : Bool) :
    Lead S T { v with queue := queue', rewoken := rewoken' } u { w with queue, rewoken } :=
  { h with own := { h.own with }, other := { h.other with } }

lemma log (h : Lead S T v u w) (e : Event) (he : e.node?.all S.nodes = true) :
    Lead S T (v.log e) u (w.log (e.rename S)) := by
  have hown : (w.log (e.rename S)).journal.filter S.about =
      ((v.log e).journal.filter S.about).map (Event.rename S) := by
    have hsame : S.about (e.rename S) = S.about e := by
      unfold Side.about
      rw [Event.node?_rename]
    show (e.rename S :: w.journal).filter _ = ((e :: v.journal).filter _).map _
    rw [List.filter_cons, List.filter_cons, hsame, h.own.journal]
    cases S.about e <;> rfl
  have hother : (w.log (e.rename S)).journal.filter T.about =
      (u.journal.filter T.about).map (Event.rename T) := by
    have hnot : T.about (e.rename S) = false := by
      unfold Side.about
      rw [Event.node?_rename]
      cases hn : e.node? with
      | none => rfl
      | some id =>
        rw [hn] at he
        exact h.opposite.other he
    show (e.rename S :: w.journal).filter _ = _
    rw [List.filter_cons_of_neg (by simp [hnot]), h.other.journal]
  exact { h with
    own := { h.own with journal := hown }
    other := { h.other with journal := hother } }

/-! What is about no node shows on neither side. -/

lemma log_own (h : Lead S T v u w) {e : Event} (he : e.node? = none) :
    Lead S T (v.log e) u w := by
  refine { h with own := { h.own with journal := ?_ } }
  show _ = ((e :: v.journal).filter _).map _
  rw [List.filter_cons_of_neg (by simp [Side.about, he]), h.own.journal]

lemma log_whole (h : Lead S T v u w) {e : Event} (he : e.node? = none) :
    Lead S T v u (w.log e) := by
  refine { h with own := { h.own with journal := ?_ }, other := { h.other with journal := ?_ } }
  · show (e :: w.journal).filter _ = _
    rw [List.filter_cons_of_neg (by simp [Side.about, he]), h.own.journal]
  · show (e :: w.journal).filter _ = _
    rw [List.filter_cons_of_neg (by simp [Side.about, he]), h.other.journal]

lemma setEngine (h : Lead S T v u w) {host : String} {e e' : Engine} (he : e.Strand S host e')
    (hu : e.Strand T host (u.engine host)) :
    Lead S T (v.setEngine host e') u (w.setEngine host e) := by
  have hown : ∀ i, ((w.setEngine host e).engine i).Strand S i ((v.setEngine host e').engine i) := by
    intro i
    rw [engine_setEngine, engine_setEngine]
    by_cases hi : host = i
    · subst hi
      rw [if_pos rfl, if_pos rfl]
      exact he
    · rw [if_neg hi, if_neg hi]
      exact h.own.engine i
  have hother : ∀ i, ((w.setEngine host e).engine i).Strand T i (u.engine i) := by
    intro i
    rw [engine_setEngine]
    by_cases hi : host = i
    · subst hi
      rw [if_pos rfl]
      exact hu
    · rw [if_neg hi]
      exact h.other.engine i
  refine { h with
    own := { h.own with engine := hown, setup := fun i => ?_, blind := fun i => ?_ }
    other := { h.other with engine := hother, setup := fun i => ?_ } }
  · rw [setup_setEngine, setup_setEngine, h.own.setup]
  · rw [policy_setEngine]
    exact h.own.blind i
  · rw [setup_setEngine, h.other.setup]

lemma setFlight (h : Lead S T v u w) (i : Nat) {f f' : Flight} (hf : f.Resembles S f') :
    Lead S T (v.setFlight i f') u (w.setFlight (S .flight i) f) :=
  { h with
    own := { h.own with flights := h.own.flights.set (S.strictMono _) i hf }
    other := { h.other with
      flights := h.other.flights.set_other (fun j => (h.opposite.apart _ i j).symm) f } }

lemma setTask (h : Lead S T v u w) (i : Nat) {t t' : Task} (ht : t.Resembles S t') :
    Lead S T { v with tasks := v.tasks.set i t' } u { w with tasks := w.tasks.set (S .task i) t } :=
  { h with
    own := { h.own with tasks := h.own.tasks.set (S.strictMono _) i ht }
    other := { h.other with
      tasks := h.other.tasks.set_other (fun j => (h.opposite.apart _ i j).symm) t } }

lemma setValve (h : Lead S T v u w) (i : Nat) (x : Valve) :
    Lead S T { v with valves := v.valves.set i x } u
      { w with valves := w.valves.set (S .valve i) (x.rename S) } :=
  { h with
    own := { h.own with valves := h.own.valves.set (S.strictMono _) i rfl }
    other := { h.other with
      valves := h.other.valves.set_other (fun j => (h.opposite.apart _ i j).symm) _ } }

lemma withDriving (h : Lead S T v u w) (l : List Nat) :
    Lead S T { v with driving := l } u { w with driving := l.map (S .flight) } :=
  { h with own := { h.own with }, other := { h.other with }, driving := rfl }

lemma drive (h : Lead S T v u w) (i : Nat) :
    Lead S T { v with driving := i :: v.driving } u
      { w with driving := S .flight i :: w.driving } := by
  have hl := h.withDriving (i :: v.driving)
  rw [List.map_cons, ← h.driving] at hl
  exact hl

lemma countDelivery (h : Lead S T v u w) :
    Lead S T { v with deliveries := v.deliveries + 1 } u
      { w with deliveries := w.deliveries + 1 } :=
  { h with
    own := { h.own with }
    other := { h.other with }
    deliveries := fun hr => congrArg (· + 1) (h.deliveries hr) }

/-- No task runs any more. -/
lemma rest (h : Lead S T v u w) :
    Lead S T { v with running := none, rewoken := false, focus := .idle } u
      { w with running := none, rewoken := false, focus := .idle } :=
  { h with
    own := { h.own with }
    other := { h.other with }
    running := rfl
    deliveries := fun hr => absurd rfl hr
    focus := rfl
    alone := by rintro r ⟨⟩ }

lemma breakDown (h : Lead S T v u w) (source : PanicSource) (text : String) :
    Lead S T (v.breakDown source text) u (w.breakDown source text) :=
  (h.log (.panicked source text) rfl).shift (.panic text) rfl

/-- A subscriber of the side is called. -/
lemma countCall (h : Lead S T v u w) {c : Nat} (hc : S.own (S.subscriber c) = true)
    {s s' : Subscriber} (hw : w.subscribers[S.subscriber c]? = some s)
    (hv : v.subscribers[c]? = some s') :
    Lead S T { v with subscribers := v.subscribers.set c { s' with calls := s'.calls + 1 } } u
      { w with
        subscribers := w.subscribers.set (S.subscriber c) { s with calls := s.calls + 1 } } := by
  have hother : T.own (S.subscriber c) = false := by
    rw [h.opposite.own, hc]
    rfl
  exact { h with
    own := { h.own with roster := h.own.roster.call hw hv }
    other := { h.other with roster := h.other.roster.call_other hother hw } }

/-! What is new goes by the next number, which has to be one of the side that leads. -/

lemma addFlight (h : Lead S T v u w) (hn : S .flight v.flights.length = w.flights.length)
    {f f' : Flight} (hf : f.Resembles S f') :
    Lead S T { v with flights := v.flights ++ [f'] } u { w with flights := w.flights ++ [f] } :=
  { h with
    own := { h.own with flights := h.own.flights.append (S.strictMono _) hn hf }
    other := { h.other with
      flights := h.other.flights.append_other
        (fun j => hn ▸ (h.opposite.apart _ _ j).symm) f } }

lemma addTask (h : Lead S T v u w) (hn : S .task v.tasks.length = w.tasks.length)
    {t t' : Task} (ht : t.Resembles S t') :
    Lead S T { v with tasks := v.tasks ++ [t'] } u { w with tasks := w.tasks ++ [t] } :=
  { h with
    own := { h.own with tasks := h.own.tasks.append (S.strictMono _) hn ht }
    other := { h.other with
      tasks := h.other.tasks.append_other (fun j => hn ▸ (h.opposite.apart _ _ j).symm) t } }

lemma addValve (h : Lead S T v u w) (hn : S .valve v.valves.length = w.valves.length) :
    Lead S T { v with valves := v.valves ++ [{}] } u { w with valves := w.valves ++ [{}] } :=
  { h with
    own := { h.own with valves := h.own.valves.append (S.strictMono _) hn rfl }
    other := { h.other with
      valves := h.other.valves.append_other (fun j => hn ▸ (h.opposite.apart _ _ j).symm) _ } }

lemma countResult (h : Lead S T v u w) (hn : S .result v.nextResult = w.nextResult) :
    Lead S T { v with nextResult := v.nextResult + 1 } u
      { w with nextResult := w.nextResult + 1 } :=
  { h with
    own := { h.own with results := .upto (S.strictMono _) hn }
    other := { h.other with
      results := h.other.results.succ_other fun j => hn ▸ (h.opposite.apart _ _ j).symm } }

end Lead

end World

end Dataflow

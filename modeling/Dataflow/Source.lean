import Dataflow.Node

/-!
# Sources

A `Source` describes a node whose recipes read an outcome from a cell and hand over what the outcome
comes to.
-/

namespace Dataflow

/-- When a source hands over its outcome. -/
inductive Pace where
  /-- It has no way to produce anything. -/
  | never
  /-- At once, without waiting for other slots. -/
  | atOnce
  /-- At once, or when the slots it depends on are there. -/
  | free
  /-- After a valve was opened. -/
  | held
deriving DecidableEq, Repr

structure Source where
  id : String
  name : String
  /-- The pipeline that it asks for other slots. -/
  host : String
  /-- The only kind of payload that it can hand over. -/
  only : Option Kind
  pace : Pace
  /-- The cells of some outputs; that of any other is named after the node and the output. -/
  cells : NameMap String

namespace Source

def cell (s : Source) (output : String) : String :=
  (s.cells.get? output).getD (s.id ++ "." ++ output)

def fit (s : Source) (p : Payload) : Except Cause Payload :=
  match s.only with
  | none => .ok p
  | some k => if p.kind = k then .ok p else .error ⟨"not a " ++ k.label, []⟩

def noValue : Recipe := .finish (.error ⟨"no value", []⟩)

/-- Asks for the slots one after the other and joins their texts. -/
def gather (s : Source) : List Slot → String → Recipe
  | [], done => .finish (s.fit (.text done))
  | slot :: rest, done =>
    .ask s.host slot fun
      | .ok (.text t) => gather s rest (done ++ t)
      | .ok _ => gather s rest (done ++ "?")
      | .error f => .finish (.error (f.cause.within ("while joining " ++ s.id)))

/-- What the outcome of a cell comes to. -/
def handOver (s : Source) : Outcome → Recipe
  | .value p => .finish (s.fit p)
  | .failed c => .finish (.error c)
  | .crash text => .crash text
  | .absent => noValue
  | .relay slot =>
    if s.pace = .atOnce then noValue
    else .ask s.host slot fun
      | .ok p => .finish (s.fit p)
      | .error f => .finish (.error f.cause)
  | .gather slots => if s.pace = .atOnce then noValue else s.gather slots ""

def recipe (s : Source) (output : String) : Recipe :=
  let what : Announcement := ⟨s.id, s.name, output⟩
  if s.pace = .never then
    .finish (.error ⟨"Node '" ++ s.id ++ "' has no compute function", []⟩)
  else
    .peek (s.cell output) fun found =>
      let outcome := found.getD (.failed ⟨"cell '" ++ s.cell output ++ "' is empty", []⟩)
      if s.pace = .held then .hold what fun replaced => s.handOver (replaced.getD outcome)
      else .announce what (s.handOver outcome)

def node (s : Source) (outputs : NameMap Schema) : Node := ⟨s.id, s.name, outputs, s.recipe⟩

end Source

end Dataflow

import Dataflow.Payload
import Dataflow.Schema.Shape

/-!
# Schemas

A schema judges a payload after it was produced. The engine knows no more of a schema than the
verdicts it gives; the schemas below are the common ones.
-/

namespace Dataflow

inductive Verdict where
  | accepted
  | rejected (diagnostic : String)
  /-- The schema itself breaks down. -/
  | crashed (text : String)
deriving DecidableEq, Repr

structure Schema where
  check : Payload → Verdict

/-- A condition on payloads of one kind. -/
inductive Condition where
  /-- The text begins with these characters, compared one by one. -/
  | startsWith (start : String)
  | maxChars (n : Int)
  | atLeast (n : Int)
  | atMost (n : Int)
  | isTrue
  /-- The object has this field, whatever its value. -/
  | hasField (field : String)
  | isFinite
deriving DecidableEq, Repr

namespace Condition

def kind : Condition → Kind
  | .startsWith _ => .text
  | .maxChars _ => .text
  | .atLeast _ => .i64
  | .atMost _ => .u32
  | .isTrue => .bool
  | .hasField _ => .json
  | .isFinite => .f64

def holds : Condition → Payload → Bool
  | .startsWith start, .text s => start.toList.isPrefixOf s.toList
  | .maxChars n, .text s => decide ((s.toList.length : Int) ≤ n)
  | .atLeast n, .i64 m => decide (n ≤ m.toInt)
  | .atMost n, .u32 m => decide ((m.toNat : Int) ≤ n)
  | .isTrue, .bool b => b
  | .hasField field, .json j => (j.get? field).isSome
  | .isFinite, .f64 (.finite _) => true
  | _, _ => false

end Condition

namespace Schema

def any : Schema := ⟨fun _ => .accepted⟩

def wrongKind (k : Kind) : Verdict := .rejected ("Expected " ++ k.typeName)

/-- Accepts payloads of kind `k`. -/
def ofKind (k : Kind) : Schema := ⟨fun p => if p.kind = k then .accepted else wrongKind k⟩

/-- Accepts payloads for which the condition holds; its kind is checked first. -/
def refine (c : Condition) (diagnostic : String) : Schema :=
  ⟨fun p =>
    if p.kind = c.kind then if c.holds p then .accepted else .rejected diagnostic
    else wrongKind c.kind⟩

/-- Accepts 64 bit integers from `n` on, and gives no reason for payloads of other kinds. -/
def floor (n : Int) : Schema :=
  ⟨fun
    | .i64 m =>
      if n ≤ m.toInt then .accepted
      else .rejected (toString m.toInt ++ " is below " ++ toString n)
    | _ => .rejected ""⟩

def crash (text : String) : Schema := ⟨fun _ => .crashed text⟩

/-- Accepts JSON values that can be read as `s`. -/
def shaped (s : Shape) : Schema :=
  ⟨fun
    | .json j =>
      match s.check j with
      | .ok () => .accepted
      | .error e => .rejected e.message
    | _ => .rejected "Expected a JSON value"⟩

end Schema

end Dataflow

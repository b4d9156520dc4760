import Dataflow.NameMap
import Dataflow.Number.Binary64

/-!
# JSON values

Integers and floating point numbers are kept apart, and objects list their fields by name. Two
values are the same when they agree at every depth, whatever the order of fields.
-/

namespace Dataflow

inductive JsonNumber where
  | int (n : Int)
  | float (x : Binary64)
deriving DecidableEq, Repr

namespace JsonNumber

/-- An integer is never equal to a floating point number. -/
def same : JsonNumber → JsonNumber → Bool
  | .int m, .int n => m == n
  | .float x, .float y => x.same y
  | _, _ => false

end JsonNumber

inductive Json where
  | null
  | bool (b : Bool)
  | number (n : JsonNumber)
  | string (s : String)
  | array (items : List Json)
  | object (fields : List (String × Json))
deriving Repr

namespace Json

instance : Inhabited Json := ⟨.null⟩

mutual

def same : Json → Json → Bool
  | .null, .null => true
  | .bool a, .bool b => a == b
  | .number m, .number n => m.same n
  | .string s, .string t => s == t
  | .array xs, .array ys => sameItems xs ys
  | .object fs, .object gs => sameFields fs gs []
  | _, _ => false

def sameItems : List Json → List Json → Bool
  | [], [] => true
  | x :: xs, y :: ys => same x y && sameItems xs ys
  | _, _ => false

/-- Whether the fields agree with `gs` on every name outside `seen`. Of two fields with one name
the first counts. -/
def sameFields : List (String × Json) → NameMap Json → List String → Bool
  | [], gs, seen => gs.all fun g => seen.contains g.1
  | (k, v) :: fs, gs, seen =>
    if seen.contains k then sameFields fs gs seen
    else
      match gs.get? k with
      | some w => same v w && sameFields fs gs (k :: seen)
      | none => false

end

/-- The field `k` of an object, if there is one. -/
def get? (j : Json) (k : String) : Option Json :=
  match j with
  | .object fields => NameMap.get? fields k
  | _ => none

def text? : Json → Option String
  | .string s => some s
  | _ => none

def list? : Json → Option (List Json)
  | .array items => some items
  | _ => none

def int? : Json → Option Int
  | .number (.int n) => some n
  | _ => none

def fields? : Json → Option (List (String × Json))
  | .object fields => some fields
  | _ => none

/-- The field `k` as text, or else the empty text. -/
def textAt (j : Json) (k : String) : String := ((j.get? k).bind text?).getD ""

/-- The field `k` as a list, or else the empty list. -/
def listAt (j : Json) (k : String) : List Json := ((j.get? k).bind list?).getD []

/-- Whether the field `k` is there and true. -/
def flagAt (j : Json) (k : String) : Bool :=
  match j.get? k with
  | some (.bool b) => b
  | _ => false

end Json

end Dataflow

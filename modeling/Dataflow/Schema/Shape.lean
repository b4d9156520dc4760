import Dataflow.Json.Basic
import Dataflow.Number.Shortest
import Dataflow.Text.Quoted

/-!
# Shapes of JSON values

A shape describes how a JSON value is read into typed data. Reading goes through arrays in order
and through objects in the order of their names, and stops at the first mismatch.
-/

namespace Dataflow

/-- What happens when a record does not mention a field. -/
inductive Absence where
  /-- It is a mismatch. -/
  | required
  /-- Left out of an object, the field is absent; an array must still reach it. -/
  | optional
  /-- The field takes its default. -/
  | defaulted
deriving DecidableEq, Repr

inductive Shape where
  | unit
  | bool
  /-- An integer between `low` and `high`. -/
  | integer (name : String) (low high : Int)
  | float
  | text
  | value
  /-- The shape, or null. -/
  | nullable (inner : Shape)
  | list (item : Shape)
  | map (item : Shape)
  | tuple (items : List Shape)
  /-- An object with these fields, or an array that has them in order. A closed record allows no
  others. -/
  | record (name : String) (closed : Bool) (fields : List (String × Absence × Shape))
  /-- One of several alternatives: a bare name where its shape is the unit, and else an object
  with the name as its single field. -/
  | variant (alternatives : List (String × Shape))

inductive Mismatch where
  | kind (found expected : String)
  | range (found expected : String)
  | length (n : Nat) (expected : String)
  | missingField (field : String)
  | unknownField (field : String) (known : List String)
  | unknownVariant (name : String) (known : List String)
deriving DecidableEq, Repr

def Mismatch.message : Mismatch → String
  | .kind found expected => "invalid type: " ++ found ++ ", expected " ++ expected
  | .range found expected => "invalid value: " ++ found ++ ", expected " ++ expected
  | .length n expected => "invalid length " ++ toString n ++ ", expected " ++ expected
  | .missingField field => "missing field `" ++ field ++ "`"
  | .unknownField field known => "unknown field `" ++ field ++ "`, expected one of " ++ listed known
  | .unknownVariant name known =>
    "unknown variant `" ++ name ++ "`, expected one of " ++ listed known
where
  listed (names : List String) : String := ", ".intercalate (names.map fun n => "`" ++ n ++ "`")

/-- How a value is named in a diagnostic. -/
def Json.describe : Json → String
  | .null => "null"
  | .bool b => "boolean `" ++ (if b then "true" else "false") ++ "`"
  | .number (.int n) => "integer `" ++ toString n ++ "`"
  | .number (.float x) => "floating point `" ++ x.render ++ "`"
  | .string s => "string " ++ Text.quote s
  | .array _ => "sequence"
  | .object _ => "map"

namespace Shape

def u8 : Shape := .integer "u8" 0 255

def i64 : Shape := .integer "i64" Int64.minValue.toInt Int64.maxValue.toInt

/-- The first field of a record that must not be left out of an object and is. -/
def missing? (fields : List (String × Absence × Shape)) (given : List String) : Option String :=
  (fields.find? fun f => f.2.1 == .required && !given.contains f.1).map Prod.fst

def fewer : String := "fewer elements in array"

def all {α : Type} (check : α → Except Mismatch Unit) : List α → Except Mismatch Unit
  | [] => .ok ()
  | x :: xs => match check x with
    | .ok () => all check xs
    | .error e => .error e

/-- Reads the fields of an object, each by `checkOne`. -/
def readObject (fields : List (String × Absence × Shape)) (given : List (String × Json))
    (checkOne : String → Json → Except Mismatch Unit) : Except Mismatch Unit :=
  match all (fun g => checkOne g.1 g.2) given with
  | .error e => .error e
  | .ok () =>
    match missing? fields (given.map Prod.fst) with
    | some f => .error (.missingField f)
    | none => .ok ()

mutual

/-- Reads a value as a shape. -/
def check : Shape → Json → Except Mismatch Unit
  | .unit, j => match j with
    | .null => .ok ()
    | j => .error (.kind j.describe "unit")
  | .bool, j => match j with
    | .bool _ => .ok ()
    | j => .error (.kind j.describe "a boolean")
  | .integer name low high, j => match j with
    | .number (.int n) =>
      if low ≤ n ∧ n ≤ high then .ok () else .error (.range j.describe name)
    | j => .error (.kind j.describe name)
  | .float, j => match j with
    | .number _ => .ok ()
    | j => .error (.kind j.describe "f64")
  | .text, j => match j with
    | .string _ => .ok ()
    | j => .error (.kind j.describe "a string")
  | .value, _ => .ok ()
  | .nullable inner, j => match j with
    | .null => .ok ()
    | j => inner.check j
  | .list item, j => match j with
    | .array items => all (fun x => item.check x) items
    | j => .error (.kind j.describe "a sequence")
  | .map item, j => match j with
    | .object fields => all (fun f => item.check f.2) fields
    | j => .error (.kind j.describe "a map")
  | .tuple shapes, j =>
    let expected := "a tuple of size " ++ toString shapes.length
    match j with
    | .array items => checkTuple shapes items items.length expected
    | j => .error (.kind j.describe expected)
  | .record name closed fields, j => match j with
    | .object given =>
      readObject fields given fun k x => checkField fields k x closed (fields.map Prod.fst)
    | .array items =>
      checkInOrder fields items items.length
        ("struct " ++ name ++ " with " ++ toString fields.length ++ " elements")
    | j => .error (.kind j.describe ("struct " ++ name))
  | .variant alternatives, j => match j with
    | .string name => checkAlternative alternatives name none (alternatives.map Prod.fst)
    | .object [(name, j)] => checkAlternative alternatives name (some j) (alternatives.map Prod.fst)
    | .object _ => .error (.range j.describe "map with a single key")
    | j => .error (.kind j.describe "string or map")

def checkTuple : List Shape → List Json → Nat → String → Except Mismatch Unit
  | [], [], _, _ => .ok ()
  | [], _ :: _, n, _ => .error (.length n fewer)
  | _ :: _, [], n, expected => .error (.length n expected)
  | s :: ss, x :: xs, n, expected =>
    match s.check x with
    | .ok () => checkTuple ss xs n expected
    | .error e => .error e

/-- Reads the fields of a record from an array. -/
def checkInOrder :
    List (String × Absence × Shape) → List Json → Nat → String → Except Mismatch Unit
  | [], [], _, _ => .ok ()
  | [], _ :: _, n, _ => .error (.length n fewer)
  | (_, a, _) :: fs, [], n, expected =>
    if a = .defaulted then checkInOrder fs [] n expected else .error (.length n expected)
  | (_, _, s) :: fs, x :: xs, n, expected =>
    match s.check x with
    | .ok () => checkInOrder fs xs n expected
    | .error e => .error e

/-- Reads one field of an object. -/
def checkField : List (String × Absence × Shape) → String → Json → Bool → List String →
    Except Mismatch Unit
  | [], k, _, closed, known => if closed then .error (.unknownField k known) else .ok ()
  | (f, _, s) :: fs, k, j, closed, known =>
    if f = k then s.check j else checkField fs k j closed known

/-- Reads the content of the alternative `name`, if it has any. -/
def checkAlternative : List (String × Shape) → String → Option Json → List String →
    Except Mismatch Unit
  | [], name, _, known => .error (.unknownVariant name known)
  | (n, s) :: rest, name, content, known =>
    if n = name then
      match s, content with
      | .unit, none => .ok ()
      | .record _ _ _, none => .error (.kind "unit variant" "struct variant")
      | _, none => .error (.kind "unit variant" "newtype variant")
      | .record _ closed fields, some j =>
        match j with
        | .object given =>
          readObject fields given fun k x => checkField fields k x closed (fields.map Prod.fst)
        | j => .error (.kind j.describe "struct variant")
      | s, some j => s.check j
    else checkAlternative rest name content known

end

end Shape

end Dataflow

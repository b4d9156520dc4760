import Dataflow.Json.Basic

/-!
# Payloads

What a node produces is a payload of one of a fixed number of kinds. A payload never counts as one
of another kind, not even when both hold the same number.
-/

namespace Dataflow

/-- A double precision number with its special values. -/
inductive Double where
  | finite (x : Binary64)
  | infinite (negative : Bool)
  | nan
deriving DecidableEq, Repr

inductive Kind where
  | unit
  | bool
  | u8
  | u32
  | i64
  | f64
  | text
  | json
deriving DecidableEq, Repr

inductive Payload where
  | unit
  | bool (b : Bool)
  | u8 (n : UInt8)
  | u32 (n : UInt32)
  | i64 (n : Int64)
  | f64 (x : Double)
  | text (s : String)
  | json (j : Json)
deriving Repr

/-- The short name of a kind. -/
def Kind.label : Kind → String
  | .unit => "unit"
  | .bool => "bool"
  | .u8 => "u8"
  | .u32 => "u32"
  | .i64 => "i64"
  | .f64 => "f64"
  | .text => "string"
  | .json => "json"

/-- The name of a kind in diagnostics. -/
def Kind.typeName : Kind → String
  | .unit => "()"
  | .bool => "bool"
  | .u8 => "u8"
  | .u32 => "u32"
  | .i64 => "i64"
  | .f64 => "f64"
  | .text => "alloc::string::String"
  | .json => "serde_json::value::Value"

def Kind.all : List Kind := [.unit, .bool, .u8, .u32, .i64, .f64, .text, .json]

def Kind.ofLabel? (s : String) : Option Kind := Kind.all.find? fun k => k.label == s

namespace Payload

def kind : Payload → Kind
  | .unit => .unit
  | .bool _ => .bool
  | .u8 _ => .u8
  | .u32 _ => .u32
  | .i64 _ => .i64
  | .f64 _ => .f64
  | .text _ => .text
  | .json _ => .json

/-- The payload itself, when it is of kind `k`. -/
def as? (p : Payload) (k : Kind) : Option Payload := if p.kind = k then some p else none

/-- Reads a number that is given as an integer or as a floating point number. -/
def doubleOfNumber? : JsonNumber → Option Double
  | .int n => (Binary64.ofNat (n < 0) n.natAbs).map .finite
  | .float x => some (.finite x)

/-- Reads a payload of kind `k`; nothing when the value is of another form or out of range. -/
def ofJson? (k : Kind) (j : Json) : Option Payload :=
  match k, j with
  | .unit, _ => some .unit
  | .bool, .bool b => some (.bool b)
  | .u8, .number (.int n) => if 0 ≤ n ∧ n < UInt8.size then some (.u8 (.ofNat n.toNat)) else none
  | .u32, .number (.int n) => if 0 ≤ n ∧ n < UInt32.size then some (.u32 (.ofNat n.toNat)) else none
  | .i64, .number (.int n) =>
    if Int64.minValue.toInt ≤ n ∧ n ≤ Int64.maxValue.toInt then some (.i64 (.ofInt n)) else none
  | .f64, .number n => (doubleOfNumber? n).map .f64
  | .f64, .string "NaN" => some (.f64 .nan)
  | .f64, .string "inf" => some (.f64 (.infinite false))
  | .f64, .string "-inf" => some (.f64 (.infinite true))
  | .text, .string s => some (.text s)
  | .json, j => some (.json j)
  | _, _ => none

/-- Writes a payload as `ofJson?` reads it; the unit has nothing to write. -/
def toJson? : Payload → Option Json
  | .unit => none
  | .bool b => some (.bool b)
  | .u8 n => some (.number (.int n.toNat))
  | .u32 n => some (.number (.int n.toNat))
  | .i64 n => some (.number (.int n.toInt))
  | .f64 (.finite x) => some (.number (.float x))
  | .f64 (.infinite false) => some (.string "inf")
  | .f64 (.infinite true) => some (.string "-inf")
  | .f64 .nan => some (.string "NaN")
  | .text s => some (.string s)
  | .json j => some j

end Payload

end Dataflow

import Dataflow.Json.Basic
import Dataflow.Number.Shortest

/-!
# Writing JSON

Values are written without blanks. Characters are written as they are, except for quotes,
backslashes and control characters.
-/

namespace Dataflow

def JsonNumber.render : JsonNumber → String
  | .int n => toString n
  | .float x => x.render

namespace Json

def hexPair (n : Nat) : List Char := [Nat.digitChar (n / 16), Nat.digitChar (n % 16)]

def printChar (c : Char) : List Char :=
  if c = '"' then ['\\', '"']
  else if c = '\\' then ['\\', '\\']
  else if c = '\n' then ['\\', 'n']
  else if c = '\r' then ['\\', 'r']
  else if c = '\t' then ['\\', 't']
  else if c.toNat < 32 then ['\\', 'u', '0', '0'] ++ hexPair c.toNat
  else [c]

def printText (s : String) : String :=
  "\"" ++ String.ofList (s.toList.flatMap printChar) ++ "\""

mutual

def print : Json → String
  | .null => "null"
  | .bool b => if b then "true" else "false"
  | .number n => n.render
  | .string s => printText s
  | .array items => "[" ++ ",".intercalate (printItems items) ++ "]"
  | .object fields => "\x7b" ++ ",".intercalate (printFields fields) ++ "\x7d"

def printItems : List Json → List String
  | [] => []
  | x :: xs => print x :: printItems xs

def printFields : List (String × Json) → List String
  | [] => []
  | (k, v) :: fs => (printText k ++ ":" ++ print v) :: printFields fs

end

end Json

end Dataflow

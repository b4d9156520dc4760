import Dataflow.Json.Basic

/-!
# Reading JSON

A reader takes what it needs from the front of a text and hands back the rest, or nothing when the
text is malformed. Of fields with one name the last counts, and values nest at most 127 deep.
-/

namespace Dataflow

namespace Json

def digit? (c : Char) : Option Nat := if c.isDigit then some (c.toNat - '0'.toNat) else none

def hexDigit? (c : Char) : Option Nat :=
  if c.isDigit then some (c.toNat - '0'.toNat)
  else if 'a' ≤ c && c ≤ 'f' then some (c.toNat - 'a'.toNat + 10)
  else if 'A' ≤ c && c ≤ 'F' then some (c.toNat - 'A'.toNat + 10)
  else none

def skipBlanks : List Char → List Char
  | c :: cs => if c = ' ' || c = '\n' || c = '\t' || c = '\r' then skipBlanks cs else c :: cs
  | [] => []

/-- The word `w` at the front of a text. -/
def word? : List Char → List Char → Option (List Char)
  | [], cs => some cs
  | w :: ws, c :: cs => if w = c then word? ws cs else none
  | _ :: _, [] => none

/-- The greatest significand that is kept digit by digit. -/
def maxSignificand : Nat := UInt64.size - 1

/-- Digits of a whole part. A digit that would take the significand out of range is counted, with
all after it, and otherwise dropped. -/
def wholeDigits : List Char → Nat → Nat → Nat × Nat × List Char
  | [], m, dropped => (m, dropped, [])
  | c :: cs, m, dropped =>
    match digit? c with
    | none => (m, dropped, c :: cs)
    | some d =>
      if 0 < dropped || maxSignificand < m * 10 + d then wholeDigits cs m (dropped + 1)
      else wholeDigits cs (m * 10 + d) dropped

/-- Digits after a point, and how many of them the significand holds. From the first digit that
would take it out of range on they are dropped. -/
def pointDigits : List Char → Nat → Nat → Bool → Nat × Nat × List Char
  | [], m, kept, _ => (m, kept, [])
  | c :: cs, m, kept, full =>
    match digit? c with
    | none => (m, kept, c :: cs)
    | some d =>
      if full || maxSignificand < m * 10 + d then pointDigits cs m kept true
      else pointDigits cs (m * 10 + d) (kept + 1) false

/-- The greatest exponent that is kept. -/
def maxExponent : Nat := 2147483647

/-- The digits of an exponent: its value, or nothing when it passes the greatest. -/
def exponentDigits : List Char → Option Nat → Option Nat × List Char
  | [], e => (e, [])
  | c :: cs, e =>
    match digit? c with
    | none => (e, c :: cs)
    | some d =>
      exponentDigits cs (e.bind fun e =>
        if e * 10 + d ≤ maxExponent then some (e * 10 + d) else none)

def startsWithDigit (cs : List Char) : Bool := (cs.head?.bind digit?).isSome

/-- The number `m * 10 ^ e`, unless it is out of range. -/
def scaled (negative : Bool) (m : Nat) (e : Int) (rest : List Char) :
    Option (JsonNumber × List Char) :=
  (Binary64.ofDecimal negative m e).map fun x => (.float x, rest)

/-- Reads what follows the mark of an exponent. -/
def exponent? (negative : Bool) (m : Nat) (e : Int) (cs : List Char) :
    Option (JsonNumber × List Char) :=
  let (down, ds) :=
    match cs with
    | '-' :: r => (true, r)
    | '+' :: r => (false, r)
    | r => (false, r)
  if !startsWithDigit ds then none
  else
    match exponentDigits ds (some 0) with
    | (some x, rest) => scaled negative m (if down then e - x else e + x) rest
    | (none, rest) =>
      if m ≠ 0 && !down then none else some (.float (Binary64.zero negative), rest)

/-- A whole number, or a floating point number when it is out of the range of words of 64 bits. -/
def whole (negative : Bool) (m : Nat) : Option JsonNumber :=
  if !negative then some (.int m)
  else if m = 0 || -(m : Int) < Int64.minValue.toInt then (Binary64.ofNat true m).map .float
  else some (.int (-(m : Int)))

/-- Reads a number without its sign. -/
def unsigned? (negative : Bool) (cs : List Char) : Option (JsonNumber × List Char) :=
  if !startsWithDigit cs then none
  else
    let (m, dropped, rest) := wholeDigits cs 0 0
    if cs.head? = some '0' && startsWithDigit (cs.drop 1) then none
    else
      match rest with
      | '.' :: ds =>
        if !startsWithDigit ds then none
        else
          let (m, kept, rest) := pointDigits ds m 0 false
          match rest with
          | 'e' :: r => exponent? negative m (dropped - kept : Int) r
          | 'E' :: r => exponent? negative m (dropped - kept : Int) r
          | r => scaled negative m (dropped - kept : Int) r
      | 'e' :: r => exponent? negative m dropped r
      | 'E' :: r => exponent? negative m dropped r
      | r => if dropped = 0 then (whole negative m).map (·, r) else scaled negative m dropped r

def number? : List Char → Option (JsonNumber × List Char)
  | '-' :: cs => unsigned? true cs
  | cs => unsigned? false cs

/-- Four hexadecimal digits. -/
def unit? : List Char → Option (Nat × List Char)
  | a :: b :: c :: d :: cs =>
    match hexDigit? a, hexDigit? b, hexDigit? c, hexDigit? d with
    | some a, some b, some c, some d => some (((a * 16 + b) * 16 + c) * 16 + d, cs)
    | _, _, _, _ => none
  | _ => none

/-- The character of an escape, after its backslash. Two halves of a pair make one character, and a
half alone is malformed. -/
def escape? : List Char → Option (Char × List Char)
  | '"' :: cs => some ('"', cs)
  | '\\' :: cs => some ('\\', cs)
  | '/' :: cs => some ('/', cs)
  | 'b' :: cs => some (Char.ofNat 8, cs)
  | 'f' :: cs => some (Char.ofNat 12, cs)
  | 'n' :: cs => some ('\n', cs)
  | 'r' :: cs => some ('\r', cs)
  | 't' :: cs => some ('\t', cs)
  | 'u' :: cs =>
    match unit? cs with
    | none => none
    | some (u, rest) =>
      if u < 0xD800 || 0xDFFF < u then some (Char.ofNat u, rest)
      else if 0xDC00 ≤ u then none
      else
        match rest with
        | '\\' :: 'u' :: more =>
          match unit? more with
          | some (v, rest) =>
            if 0xDC00 ≤ v && v ≤ 0xDFFF then
              some (Char.ofNat (0x10000 + (u - 0xD800) * 1024 + (v - 0xDC00)), rest)
            else none
          | none => none
        | _ => none
  | _ => none

/-- The rest of a string, after its opening quote. -/
def stringRest? : Nat → List Char → List Char → Option (String × List Char)
  | 0, _, _ => none
  | _ + 1, [], _ => none
  | k + 1, c :: cs, done =>
    if c = '"' then some (String.ofList done.reverse, cs)
    else if c = '\\' then (escape? cs).bind fun (e, rest) => stringRest? k rest (e :: done)
    else if c.toNat < 32 then none
    else stringRest? k cs (c :: done)

def string? (cs : List Char) : Option (String × List Char) := stringRest? (cs.length + 1) cs []

mutual

/-- Reads a value. Every call spends one unit of fuel, and arrays and objects one unit of depth. -/
def value? : Nat → Nat → List Char → Option (Json × List Char)
  | 0, _, _ => none
  | fuel + 1, depth, cs =>
    match skipBlanks cs with
    | 'n' :: rest => (word? ['u', 'l', 'l'] rest).map (.null, ·)
    | 't' :: rest => (word? ['r', 'u', 'e'] rest).map (.bool true, ·)
    | 'f' :: rest => (word? ['a', 'l', 's', 'e'] rest).map (.bool false, ·)
    | '"' :: rest => (string? rest).map fun (s, rest) => (.string s, rest)
    | '[' :: rest =>
      if depth ≤ 1 then none
      else
        match skipBlanks rest with
        | ']' :: rest => some (.array [], rest)
        | rest => (items? fuel (depth - 1) rest).map fun (xs, rest) => (.array xs, rest)
    | '\x7b' :: rest =>
      if depth ≤ 1 then none
      else
        match skipBlanks rest with
        | '\x7d' :: rest => some (.object [], rest)
        | rest => (members? fuel (depth - 1) rest).map fun (fs, rest) =>
            (.object (NameMap.ofList fs), rest)
    | rest => (number? rest).map fun (n, rest) => (.number n, rest)

/-- Reads the items of an array that has one at least, and its closing bracket. -/
def items? : Nat → Nat → List Char → Option (List Json × List Char)
  | 0, _, _ => none
  | fuel + 1, depth, cs =>
    (value? fuel depth cs).bind fun (x, rest) =>
      match skipBlanks rest with
      | ']' :: rest => some ([x], rest)
      | ',' :: rest => (items? fuel depth rest).map fun (xs, rest) => (x :: xs, rest)
      | _ => none

/-- Reads the fields of an object that has one at least, and its closing brace. -/
def members? : Nat → Nat → List Char → Option (List (String × Json) × List Char)
  | 0, _, _ => none
  | fuel + 1, depth, cs =>
    match skipBlanks cs with
    | '"' :: rest =>
      (string? rest).bind fun (k, rest) =>
        match skipBlanks rest with
        | ':' :: rest =>
          (value? fuel depth rest).bind fun (v, rest) =>
            match skipBlanks rest with
            | '\x7d' :: rest => some ([(k, v)], rest)
            | ',' :: rest => (members? fuel depth rest).map fun (fs, rest) => ((k, v) :: fs, rest)
            | _ => none
        | _ => none
    | _ => none

end

/-- Reads a text that holds one value and nothing else but blanks. -/
def parse? (text : String) : Option Json :=
  let cs := text.toList
  match value? (2 * cs.length + 2) 128 cs with
  | some (j, rest) => if (skipBlanks rest).isEmpty then some j else none
  | none => none

end Json

end Dataflow

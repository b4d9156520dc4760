/-!
# Double precision numbers

The finite numbers of the binary64 format, exactly: a sign, a biased exponent and a fraction.
Every operation works on natural numbers and rounds once, to nearest with ties to even.
-/

namespace Dataflow

/-- A finite number. An exponent of zero marks zero and the subnormal numbers. -/
structure Binary64 where
  negative : Bool
  exponent : Fin 2047
  fraction : Fin 4503599627370496
deriving DecidableEq, Repr

namespace Binary64

/-- Two to the power of 52. The significand of a normal number is at least this, and less than
twice as much. -/
def leadingBit : Nat := 4503599627370496

def zero (negative : Bool) : Binary64 := ⟨negative, 0, 0⟩

/-- The magnitude is `significand * 2 ^ (scale - 1074)`. -/
def significand (x : Binary64) : Nat :=
  if x.exponent.val = 0 then x.fraction.val else leadingBit + x.fraction.val

def scale (x : Binary64) : Nat := x.exponent.val - 1

def isZero (x : Binary64) : Bool := x.exponent.val == 0 && x.fraction.val == 0

/-- Equality of numbers: the two zeros are equal. -/
def same (x y : Binary64) : Bool := x == y || (x.isZero && y.isZero)

def neg (x : Binary64) : Binary64 := { x with negative := !x.negative }

/-- The quotient of `num` by `den` rounded to an integer, ties to even. -/
def roundedQuotient (num den : Nat) : Nat :=
  let q := num / den
  let r := 2 * (num % den)
  if r < den then q else if den < r then q + 1 else q + q % 2

/-- The number with magnitude `m * 2 ^ (s - 1074)`, where `m` is at most twice the leading bit and
is at least that bit unless `s` is zero; nothing when it is too large. -/
def assemble (negative : Bool) (m s : Nat) : Option Binary64 :=
  let (field, fraction) :=
    if m < leadingBit then (0, m)
    else if m < 2 * leadingBit then (s + 1, m - leadingBit)
    else (s + 2, 0)
  if hf : field < 2047 then
    if hm : fraction < 4503599627370496 then some ⟨negative, ⟨field, hf⟩, ⟨fraction, hm⟩⟩ else none
  else none

/-- The scale at which `num / den` is rounded. -/
def ratioScale (num den : Nat) : Nat :=
  let guess := 1074 + num.log2 - den.log2 - 52
  if num * Nat.pow 2 1074 < leadingBit * Nat.pow 2 guess * den then guess - 1 else guess

/-- The number nearest to `num / den`; nothing when it is out of range. -/
def ofRatio (negative : Bool) (num den : Nat) : Option Binary64 :=
  if num = 0 then some (zero negative)
  else
    let s := ratioScale num den
    assemble negative (roundedQuotient (num * Nat.pow 2 1074) (den * Nat.pow 2 s)) s

def ofNat (negative : Bool) (n : Nat) : Option Binary64 := ofRatio negative n 1

/-- The magnitude as a fraction. -/
def ratio (x : Binary64) : Nat × Nat := (x.significand * Nat.pow 2 x.scale, Nat.pow 2 1074)

def mul (x y : Binary64) : Option Binary64 :=
  ofRatio (x.negative != y.negative) (x.ratio.1 * y.ratio.1) (x.ratio.2 * y.ratio.2)

def div (x y : Binary64) : Option Binary64 :=
  ofRatio (x.negative != y.negative) (x.ratio.1 * y.ratio.2) (x.ratio.2 * y.ratio.1)

/-- `10 ^ e` for a small `e`, rounded. -/
def tenPow (e : Nat) : Option Binary64 := ofNat false (Nat.pow 10 e)

/-- Divides `n` times by `10 ^ 308`. -/
def sink (x : Binary64) : Nat → Option Binary64
  | 0 => some x
  | n + 1 => if x.isZero then some x else ((tenPow 308).bind x.div).bind (sink · n)

/-- Reads `digits * 10 ^ e` with one rounding for the digits and one for each scaling by a power of
ten, the powers reaching up to `10 ^ 308`; nothing when the number is too large. -/
def ofDecimal (negative : Bool) (digits : Nat) (e : Int) : Option Binary64 :=
  match ofNat negative digits with
  | none => none
  | some x =>
    if x.isZero then some x
    else if 0 ≤ e then
      if e ≤ 308 then (tenPow e.toNat).bind x.mul else none
    else
      let steps := ((-e).toNat - 1) / 308
      match x.sink steps with
      | none => none
      | some y => (tenPow ((-e).toNat - 308 * steps)).bind y.div

end Binary64

end Dataflow

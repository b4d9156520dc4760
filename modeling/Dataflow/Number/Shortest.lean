import Dataflow.Number.Binary64

/-!
# The shortest decimal text of a number

Among the decimals that read back as a number, the text shows one with the fewest digits, and of
those the nearest to the number.
-/

namespace Dataflow

namespace Binary64

/-- A positive decimal, `digits * 10 ^ exponent`. -/
structure Decimal where
  digits : Nat
  exponent : Int
deriving DecidableEq, Repr

/-- The decimal exponent of the leading digit of `num / den`. -/
def leadingExponent (num den : Nat) : Int :=
  if den ≤ num then ((toString (num / den)).length : Int) - 1
  else
    let k := (toString (den / num)).length
    if den ≤ num * Nat.pow 10 (k - 1) then -((k : Int) - 1) else -(k : Int)

/-- The reals that round to `x`, up to scale: `(low, x, high)` over four times the spacing. The
spacing below a power of two is half of that above it. -/
def interval (x : Binary64) : Nat × Nat × Nat :=
  let m := 4 * x.significand
  let gap := if x.fraction.val = 0 && 1 < x.exponent.val then 1 else 2
  let spacing := Nat.pow 2 x.scale
  ((m - gap) * spacing, m * spacing, (m + 2) * spacing)

/-- The decimal with `n` significant digits nearest to `x` that reads back as `x`, if any. -/
def onGrid (x : Binary64) (lead : Int) (n : Nat) : Option Decimal :=
  let (low, mid, high) := x.interval
  let e := lead - ((n : Int) - 1)
  -- in units of `10 ^ e`, the number is `mid * up / down`
  let up := if e < 0 then Nat.pow 10 (-e).toNat else 1
  let down := Nat.pow 2 1076 * (if e < 0 then 1 else Nat.pow 10 e.toNat)
  let inside (d : Nat) : Bool :=
    if x.significand % 2 = 0 then low * up ≤ d * down && d * down ≤ high * up
    else low * up < d * down && d * down < high * up
  let floor := mid * up / down
  let below := mid * up - floor * down
  let above := (floor + 1) * down - mid * up
  let nearer := if below < above || (below == above && floor % 2 == 0) then floor else floor + 1
  let farther := if nearer = floor then floor + 1 else floor
  if inside nearer then some ⟨nearer, e⟩
  else if inside farther then some ⟨farther, e⟩
  else none

/-- Seventeen digits are always enough. -/
def shortestFrom (x : Binary64) (lead : Int) : Nat → Decimal
  | 0 => ⟨x.significand, 0⟩
  | k + 1 =>
    match x.onGrid lead (17 - k) with
    | some d => d
    | none => x.shortestFrom lead k

/-- Moves trailing zeros of the digits into the exponent. -/
def Decimal.trim (d : Decimal) : Nat → Decimal
  | 0 => d
  | k + 1 => if d.digits % 10 = 0 then (Decimal.mk (d.digits / 10) (d.exponent + 1)).trim k else d

def shortest (x : Binary64) : Decimal :=
  let lead := leadingExponent x.ratio.1 x.ratio.2
  (x.shortestFrom lead 17).trim 17

/-- How a decimal is laid out. -/
structure Layout where
  /-- The most digits before the point of a positional text. -/
  maxWhole : Int
  /-- The most zeros between the point and the first digit of a positional text. -/
  maxZeros : Int
  /-- What marks an exponent, and what a negative one. -/
  mark : String
  negativeMark : String

/-- Positional from `0.00001` up to sixteen whole digits, with `.0` after a whole number; else with
an exponent that always has a sign. -/
def plainLayout : Layout := ⟨16, 4, "e+", "e-"⟩

def zeros (n : Nat) : String := String.ofList (List.replicate n '0')

def Decimal.render (l : Layout) (d : Decimal) : String :=
  let text := toString d.digits
  let whole : Int := (text.length : Int) + d.exponent
  if 0 ≤ d.exponent && whole ≤ l.maxWhole then text ++ zeros d.exponent.toNat ++ ".0"
  else if 0 < whole && whole ≤ l.maxWhole then
    let (front, back) := text.toList.splitAt whole.toNat
    String.ofList front ++ "." ++ String.ofList back
  else if -l.maxZeros ≤ whole && whole ≤ 0 then "0." ++ zeros (-whole).toNat ++ text
  else
    let point := if text.length = 1 then "" else "." ++ String.ofList (text.toList.drop 1)
    let mark := if whole < 1 then l.negativeMark else l.mark
    String.ofList (text.toList.take 1) ++ point ++ mark ++ toString (whole - 1).natAbs

def render (x : Binary64) : String :=
  (if x.negative then "-" else "") ++ (if x.isZero then "0.0" else x.shortest.render plainLayout)

end Binary64

end Dataflow

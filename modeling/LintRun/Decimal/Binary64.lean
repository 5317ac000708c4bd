/-
# Binary64 numbers and their shortest decimal text

A finite number is a sign, a significand and a power of two; everything is computed on
natural numbers.

* `Binary64.ofDecimal` rounds `digits * 10 ^ exponent` to the nearest number, ties to the
  even significand;
* `Binary64.shortest` gives the fewest decimal digits that lie in the interval of reals
  that round to the number, the nearest of those;
* `Binary64.text` writes them without an exponent and with at least one decimal place.
-/
namespace LintRun

/-- A binary64 number. -/
inductive Binary64
  | nan
  | infinite (negative : Bool)
  | finite (negative : Bool) (significand : Nat) (exponent : Int)
  deriving DecidableEq, Inhabited

namespace Binary64

/-! ## 1. Rounding -/

/-- The smallest exponent of a finite number. -/
def leastExponent : Int := -1074

/-- `numerator / denominator` as a fraction times a power of two, brought over. -/
def scaled (numerator denominator : Nat) (exponent : Int) : Nat × Nat :=
  if exponent ≥ 0 then (numerator, denominator * Nat.pow 2 exponent.toNat)
  else (numerator * Nat.pow 2 (-exponent).toNat, denominator)

/-- The nearest whole number to a fraction, a half going to the even neighbour. -/
def roundHalfEven (numerator denominator : Nat) : Nat :=
  let q := numerator / denominator
  let r := numerator % denominator
  if 2 * r < denominator then q
  else if denominator < 2 * r then q + 1
  else if q % 2 = 0 then q else q + 1

/-- The nearest number to a positive fraction. -/
def ofFraction (negative : Bool) (numerator denominator : Nat) : Binary64 :=
  let size : Int := Nat.log2 numerator - Nat.log2 denominator
  let low := max (size - 53) leastExponent
  let (n, d) := scaled numerator denominator low
  let exponent := if n / d < Nat.pow 2 53 then low else low + 1
  let (n, d) := scaled numerator denominator exponent
  let m := roundHalfEven n d
  let (m, exponent) := if m = Nat.pow 2 53 then (Nat.pow 2 52, exponent + 1) else (m, exponent)
  if exponent > 971 then .infinite negative else .finite negative m exponent

/-- The nearest number to `digits * 10 ^ exponent`. -/
def ofDecimal (negative : Bool) (digits : Nat) (exponent : Int) : Binary64 :=
  if digits = 0 then .finite negative 0 leastExponent
  else
    let size : Int := (Nat.log2 digits : Int) * 30103 / 100000 + exponent
    if size > 400 then .infinite negative
    else if size < -400 then .finite negative 0 leastExponent
    else if exponent ≥ 0 then ofFraction negative (digits * Nat.pow 10 exponent.toNat) 1
    else ofFraction negative digits (Nat.pow 10 (-exponent).toNat)

/-! ## 2. The shortest digits -/

/-- `k * 10 ^ exponent` as a fraction. -/
def powerOfTen (k : Nat) (exponent : Int) : Nat × Nat :=
  if exponent ≥ 0 then (k * Nat.pow 10 exponent.toNat, 1) else (k, Nat.pow 10 (-exponent).toNat)

/-- Whether the fraction `a` is at most the fraction `b`. -/
def fractionLe (a b : Nat × Nat) : Bool := a.1 * b.2 ≤ b.1 * a.2

/-- Whether the fraction `a` is below the fraction `b`. -/
def fractionLt (a b : Nat × Nat) : Bool := a.1 * b.2 < b.1 * a.2

/-- `quarters * 2 ^ (exponent - 2)` as a fraction. -/
def quarters (n : Nat) (exponent : Int) : Nat × Nat :=
  if exponent - 2 ≥ 0 then (n * Nat.pow 2 (exponent - 2).toNat, 1)
  else (n, Nat.pow 2 (2 - exponent).toNat)

/-- The power of ten of a positive fraction's first digit. -/
def leadingPower (v : Nat × Nat) : Int :=
  let size : Int := Nat.log2 v.1 - Nat.log2 v.2
  let guess := (size * 30103).fdiv 100000
  if fractionLe (powerOfTen 1 (guess + 1)) v then guess + 1
  else if fractionLt v (powerOfTen 1 guess) then guess - 1
  else guess

/-- The point of the grid of `count` digits that is in the interval and nearest to the
number, if the interval holds one. -/
def gridPoint (m : Nat) (exponent : Int) (power : Int) (count : Nat) : Option (Nat × Int) :=
  let unit := power - count + 1
  let v := quarters (4 * m) exponent
  let gap := if m = Nat.pow 2 52 ∧ exponent > leastExponent then 1 else 2
  let low := quarters (4 * m - gap) exponent
  let high := quarters (4 * m + 2) exponent
  let u := powerOfTen 1 unit
  let below := (v.1 * u.2) / (v.2 * u.1)
  let inside (k : Nat) : Bool :=
    let x := powerOfTen k unit
    if m % 2 = 0 then fractionLe low x && fractionLe x high
    else fractionLt low x && fractionLt x high
  let twice := powerOfTen (2 * below + 1) unit
  let belowIsNearer := fractionLe (2 * v.1, v.2) twice
  match inside below, inside (below + 1) with
  | true, true => some (if belowIsNearer then below else below + 1, unit)
  | true, false => some (below, unit)
  | false, true => some (below + 1, unit)
  | false, false => none

/-- The shortest digits of a positive number and the power of ten of the last one. -/
def shortest (m : Nat) (exponent : Int) : Nat × Int :=
  let power := leadingPower (quarters (4 * m) exponent)
  ((List.range 17).findSome? fun k => gridPoint m exponent power (k + 1)).getD (0, 0)

/-! ## 3. Text -/

/-- `digits * 10 ^ unit` without an exponent, with at least one decimal place. -/
def positional (digits : Nat) (unit : Int) : String :=
  let ds := (toString digits).toList
  if unit ≥ 0 then String.ofList (ds ++ List.replicate unit.toNat '0' ++ ['.', '0'])
  else
    let places := (-unit).toNat
    let ds := List.replicate (places + 1 - ds.length) '0' ++ ds
    let cut := ds.length - places
    String.ofList (ds.take cut ++ '.' :: ds.drop cut)

/-- A number as it is quoted in messages. -/
def text : Binary64 → String
  | .nan => "NaN"
  | .infinite negative => if negative then "-inf" else "inf"
  | .finite negative m exponent =>
    let size :=
      if m = 0 then "0.0"
      else
        let (digits, unit) := shortest m exponent
        positional digits unit
    if negative then "-" ++ size else size

end Binary64

end LintRun

import LintRun.Decimal.Binary64
import LintRun.Text.Digits

/-!
# Real numbers in printed texts

A number that is to be printed is a fraction with a sign, or not finite.  `Real?.ofText` reads
one and rounds it to so many binary digits; `fixed`, `scientific` and `general` write one
rounded to so many decimal digits, a half going to the even neighbour.
-/

namespace LintRun

/-- A number that is to be printed. -/
inductive Quantity
  | nan (negative : Bool)
  | infinite (negative : Bool)
  | finite (negative : Bool) (numerator denominator : Nat)
  deriving DecidableEq, Inhabited

namespace Quantity

open Binary64

/-! ## 1. Reading -/

/-- The nearest fraction to a positive one whose numerator or denominator needs at most so many
binary digits. -/
def toBits (bits numerator denominator : Nat) : Nat × Nat :=
  if numerator = 0 then (0, 1)
  else
    let size : Int := Nat.log2 numerator - Nat.log2 denominator
    let low := size - bits
    let (n, d) := scaled numerator denominator low
    let exponent := if n / d < Nat.pow 2 bits then low else low + 1
    let (n, d) := scaled numerator denominator exponent
    let m := roundHalfEven n d
    if exponent ≥ 0 then (m * Nat.pow 2 exponent.toNat, 1)
    else (m, Nat.pow 2 (-exponent).toNat)

/-- The digits of a number in a base with its point, as a whole number and the count of places
after the point, and what follows them. -/
def digits? (base : Nat) (cs : List Char) : Option (Nat × Nat × List Char) :=
  let whole := cs.takeWhile (isDigitOf base)
  let rest := cs.dropWhile (isDigitOf base)
  match rest with
  | '.' :: more =>
    let places := more.takeWhile (isDigitOf base)
    if whole.isEmpty && places.isEmpty then none
    else some (numberOf base (whole ++ places), places.length, more.dropWhile (isDigitOf base))
  | _ => if whole.isEmpty then none else some (numberOf base whole, 0, rest)

/-- The exponent after one of two letters, and what follows it; zero without one. -/
def exponent (lower upper : Char) (cs : List Char) : Int × List Char :=
  match cs with
  | c :: more =>
    if c == lower || c == upper then
      let (negative, ds) := match more with
        | '-' :: ds => (true, ds)
        | '+' :: ds => (false, ds)
        | ds => (false, ds)
      match ds.takeWhile isDecimal with
      | [] => (0, cs)
      | es =>
        let e : Int := numberOf 10 es
        (if negative then -e else e, ds.dropWhile isDecimal)
    else (0, cs)
  | [] => (0, [])

/-- The greatest power of ten that is told from infinity. -/
def powerLimit : Int := 5000

/-- A fraction times a power. -/
def timesPower (base n d : Nat) (e : Int) : Nat × Nat :=
  if e ≥ 0 then (n * Nat.pow base e.toNat, d) else (n, d * Nat.pow base (-e).toNat)

/-- The number that a text starts with, rounded to so many binary digits, and what follows it. -/
def ofChars? (bits : Nat) (cs : List Char) : Option (Quantity × List Char) :=
  let cs := cs.dropWhile fun c => c == ' ' || ('\t' ≤ c && c ≤ '\r')
  let (negative, ds) := match cs with
    | '-' :: ds => (true, ds)
    | '+' :: ds => (false, ds)
    | ds => (false, ds)
  let starts (word : String) : Bool := word.toList.isPrefixOf (ds.map Char.toLower)
  let finish (n places : Nat) (base powerBase : Nat) (e : Int) : Quantity :=
    if n = 0 then .finite negative 0 1
    else if e > powerLimit then .infinite negative
    else if e < -powerLimit then .finite negative 0 1
    else
      let (n, d) := timesPower powerBase n (Nat.pow base places) e
      let (n, d) := toBits bits n d
      .finite negative n d
  if starts "infinity" then some (.infinite negative, ds.drop 8)
  else if starts "inf" then some (.infinite negative, ds.drop 3)
  else if starts "nan" then some (.nan negative, ds.drop 3)
  else
    let hex := if starts "0x" then digits? 16 (ds.drop 2) else none
    match hex with
    | some (n, places, rest) =>
      let (e, rest) := exponent 'p' 'P' rest
      some (finish n places 16 2 e, rest)
    | none =>
      match digits? 10 ds with
      | some (n, places, rest) =>
        let (e, rest) := exponent 'e' 'E' rest
        some (finish n places 10 10 e, rest)
      | none => none

/-! ## 2. Writing -/

/-- A whole number of units of the last of so many places. -/
def withPoint (places n : Nat) (keepsPoint : Bool) : List Char :=
  let ds := (toString n).toList
  let ds := List.replicate (places + 1 - ds.length) '0' ++ ds
  let whole := ds.take (ds.length - places)
  if places = 0 then if keepsPoint then whole ++ ['.'] else whole
  else whole ++ '.' :: ds.drop (ds.length - places)

/-- A fraction with so many places after the point. -/
def fixed (places n d : Nat) (keepsPoint : Bool) : List Char :=
  withPoint places (roundHalfEven (n * Nat.pow 10 places) d) keepsPoint

/-- The power of ten of the first digit of a fraction rounded to so many further digits, and all
these digits as a number. -/
def leadingDigits (places n d : Nat) : Int × Nat :=
  if n = 0 then (0, 0)
  else
    let power := leadingPower (n, d)
    let (a, b) := timesPower 10 n d (places - power)
    let m := roundHalfEven a b
    if m = Nat.pow 10 (places + 1) then (power + 1, Nat.pow 10 places) else (power, m)

/-- An exponent of at least two digits. -/
def exponentText (letter : Char) (e : Int) : List Char :=
  letter :: (if e < 0 then '-' else '+') :: (paddedDecimal 2 e.natAbs).toList

/-- A fraction with one digit before the point, so many after it, and an exponent. -/
def scientific (letter : Char) (places n d : Nat) (keepsPoint : Bool) : List Char :=
  let (power, m) := leadingDigits places n d
  withPoint places m keepsPoint ++ exponentText letter power

/-- A text with a point without the zeros at its end. -/
def withoutZeros (cs : List Char) : List Char :=
  if cs.contains '.' then
    let back := cs.reverse.dropWhile (· == '0')
    (if back.head? = some '.' then back.drop 1 else back).reverse
  else cs

/-- A fraction with so many digits, in the shorter of two ways. -/
def general (letter : Char) (count n d : Nat) (keepsZeros : Bool) : List Char :=
  let count := max count 1
  let (power, m) := leadingDigits (count - 1) n d
  let trim (cs : List Char) : List Char := if keepsZeros then cs else withoutZeros cs
  if -4 ≤ power && power < count then trim (fixed (count - 1 - power).toNat n d keepsZeros)
  else trim (withPoint (count - 1) m keepsZeros) ++ exponentText letter power

/-- A fraction with one digit of base sixteen before the point and an exponent of two. -/
def hexadecimal (places? : Option Nat) (n d : Nat) (keepsPoint : Bool) : List Char :=
  if n = 0 then "0x0p+0".toList
  else
    let size : Int := Nat.log2 n - Nat.log2 d
    let (a, b) := timesPower 2 n d (-size)
    let size := if a < b then size - 1 else size
    let places := places?.getD 13
    let (a, b) := timesPower 2 n d (4 * places - size)
    let m := roundHalfEven a b
    let ds := Nat.toDigits 16 m
    let ds := List.replicate (places + 1 - ds.length) '0' ++ ds
    let text := ds.take (ds.length - places) ++ '.' :: ds.drop (ds.length - places)
    let text := if places?.isSome then text else withoutZeros text
    let text := if text.getLast? = some '.' && !keepsPoint then text.dropLast else text
    '0' :: 'x' :: text ++ 'p' :: (if size < 0 then '-' else '+') :: (toString size.natAbs).toList

end Quantity

end LintRun

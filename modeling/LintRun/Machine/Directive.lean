import LintRun.Decimal.Notation
import LintRun.Text.Octets

/-!
# Directives in printed texts

A directive of a format says how one argument is written: in which notation, how wide, and with
which marks.
-/

namespace LintRun

/-- How an argument is written. -/
structure Directive where
  flags : List Char := []
  /-- A negative width aligns to the left. -/
  width : Int := 0
  precision : Option Nat := none
  conversion : Char
  deriving DecidableEq, Inhabited

namespace Directive

/-- Whether a directive has a flag. -/
def has (d : Directive) (flag : Char) : Bool := d.flags.contains flag

/-- The flags that a directive may have. -/
def isFlag (c : Char) : Bool := c == '-' || c == '0' || c == '+' || c == ' ' || c == '#'

/-- Whether text is aligned to the left. -/
def isLeft (d : Directive) : Bool := d.has '-' || d.width < 0

/-- Text at least as wide as a directive asks. -/
def pad (d : Directive) (text : Chars) : Chars :=
  let gap := List.replicate (d.width.natAbs - text.length) ' '
  if d.isLeft then text ++ gap else gap ++ text

/-- A sign or mark and the digits after it, at least as wide as a directive asks; the gap may be
filled with zeros. -/
def padNumber (d : Directive) (mayFill : Bool) (mark digits : Chars) : Chars :=
  if d.has '0' && mayFill && !d.isLeft then
    mark ++ List.replicate (d.width.natAbs - mark.length - digits.length) '0' ++ digits
  else d.pad (mark ++ digits)

/-- The sign of a number. -/
def sign (d : Directive) (negative : Bool) : Chars :=
  if negative then ['-'] else if d.has '+' then ['+'] else if d.has ' ' then [' '] else []

/-- A text. -/
def text (d : Directive) (cs : Chars) : Chars :=
  d.pad (match d.precision with
    | some p => cs.take p
    | none => cs)

/-- Digits, as many as the precision asks for; zero has none if none are asked for. -/
def digits (d : Directive) (base n : Nat) : Chars :=
  let ds := if n = 0 then [] else Nat.toDigits base n
  List.replicate (d.precision.getD 1 - ds.length) '0' ++ ds

/-- A number with a sign. -/
def signed (d : Directive) (n : Int) : Chars :=
  d.padNumber d.precision.isNone (d.sign (n < 0)) (d.digits 10 n.natAbs)

/-- A number without a sign in the base of the conversion. -/
def unsigned (d : Directive) (n : Nat) : Chars :=
  match d.conversion with
  | 'o' =>
    let ds := d.digits 8 n
    let ds := if d.has '#' && ds.head? != some '0' then '0' :: ds else ds
    d.padNumber d.precision.isNone [] ds
  | 'x' =>
    d.padNumber d.precision.isNone (if d.has '#' && n != 0 then ['0', 'x'] else []) (d.digits 16 n)
  | 'X' =>
    d.padNumber d.precision.isNone (if d.has '#' && n != 0 then ['0', 'X'] else [])
      ((d.digits 16 n).map Char.toUpper)
  | _ => d.padNumber d.precision.isNone [] (d.digits 10 n)

/-- A real number in the notation of the conversion. -/
def real (d : Directive) (q : Quantity) : Chars :=
  let keeps := d.has '#'
  let places := d.precision.getD 6
  let raised (cs : Chars) : Chars := if d.conversion.isUpper then cs.map Char.toUpper else cs
  match q with
  | .nan negative => d.padNumber false (d.sign negative) (raised "nan".toList)
  | .infinite negative => d.padNumber false (d.sign negative) (raised "inf".toList)
  | .finite negative n m =>
    let body := match d.conversion.toLower with
      | 'f' => Quantity.fixed places n m keeps
      | 'e' => Quantity.scientific 'e' places n m keeps
      | 'g' => Quantity.general 'e' places n m keeps
      | _ => Quantity.hexadecimal d.precision n m keeps
    d.padNumber true (d.sign negative) (raised body)

end Directive

/-- The number of digits of a number that a text starts with, at most `most`. -/
def digitCount (base most : Nat) (cs : Chars) : Nat :=
  ((cs.take most).takeWhile (isDigitOf base)).length

/-- A byte by number. -/
def byteChar (n : Nat) : Char := Char.ofNat (n % 256)

/-- The character that a letter after a backslash stands for. -/
def escapeLetter? (c : Char) : Option Char :=
  match c with
  | '\\' => some '\\'
  | 'a' => some '\x07'
  | 'b' => some '\x08'
  | 'e' => some '\x1B'
  | 'f' => some '\x0C'
  | 'n' => some '\n'
  | 'r' => some '\r'
  | 't' => some '\t'
  | 'v' => some '\x0B'
  | _ => none

end LintRun

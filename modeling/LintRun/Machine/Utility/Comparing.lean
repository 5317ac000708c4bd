import LintRun.Machine.Utility.Basic
import LintRun.Decimal.Notation

/-!
# Comparing lines

Lines are compared by keys.  A key is a part of a line, from one position to another, with a way
to compare: as text, as a number, as the name of a month, as a version.

* `SortKey.part` is the part of a line that a key means;
* `Ordering.compare` compares two lines.
-/

namespace LintRun.Utility

/-! ## 1. Ways to compare -/

/-- The sign of a comparison of two values. -/
def signOf {α : Type} [LT α] [DecidableRel (α := α) (· < ·)] (a b : α) : Ordering :=
  if a < b then .lt else if b < a then .gt else .eq

/-- Blanks between the words of a line. -/
def isWordGap (c : Char) : Bool := c == ' ' || c == '\t' || c == '\n'

/-- A text without the blanks at its start. -/
def withoutStart (cs : Chars) : Chars := cs.dropWhile isWordGap

/-- A decimal number at the start of a text: whether it is negative, its digits and its
decimals. -/
def decimalParts (cs : Chars) : Bool × Chars × Chars :=
  let cs := withoutStart cs
  let (negative, cs) := match cs with
    | '-' :: rest => (true, rest)
    | cs => (false, cs)
  let ds := cs.takeWhile isDecimal
  let fraction := match cs.drop ds.length with
    | '.' :: rest => rest.takeWhile isDecimal
    | _ => []
  (negative, ds, fraction)

/-- A number at the start of a text in units of so many decimals. -/
def scaled (places : Nat) (p : Bool × Chars × Chars) : Int :=
  let (negative, ds, fraction) := p
  let n : Int := numberOf 10 (ds ++ fraction ++ List.replicate (places - fraction.length) '0')
  if negative then -n else n

/-- Compares the numbers at the start of two texts. -/
def compareNumbers (a b : Chars) : Ordering :=
  let (p, q) := (decimalParts a, decimalParts b)
  let places := max p.2.2.length q.2.2.length
  signOf (scaled places p) (scaled places q)

/-- The order of a unit after a number. -/
def unitRank (c? : Option Char) : Nat :=
  match c? with
  | some c => match "KMGTPEZYRQ".toList.findIdx? (· == c) with
    | some k => k + 1
    | none => if c == 'k' then 1 else 0
  | none => 0

/-- Compares numbers with units: by sign, by unit, by number. -/
def compareUnits (a b : Chars) : Ordering :=
  let rank (cs : Chars) : Int :=
    let (negative, ds, fraction) := decimalParts cs
    let rest := (withoutStart cs).dropWhile fun c => isDecimal c || c == '-' || c == '.'
    if (ds ++ fraction).all (· == '0') then 0
    else
      let n : Int := unitRank rest.head? + 1
      if negative then -n else n
  match signOf (rank a) (rank b) with
  | .eq => compareNumbers a b
  | o => o

/-- The rank of a number in any notation: texts that are none first, then what is no number. -/
def quantityRank (cs : Chars) : Nat × Option (Int × Nat) :=
  match Quantity.ofChars? 64 (withoutStart cs) with
  | none => (0, none)
  | some (.nan _, _) => (1, none)
  | some (.infinite true, _) => (2, none)
  | some (.finite negative n d, _) => (3, some (if negative then -(n : Int) else n, d))
  | some (.infinite false, _) => (4, none)

/-- Compares numbers in any notation. -/
def compareQuantities (a b : Chars) : Ordering :=
  match quantityRank a, quantityRank b with
  | (3, some (n, d)), (3, some (m, e)) => signOf (n * e) (m * d)
  | (k, _), (l, _) => signOf k l

/-- The names of the months. -/
def monthNames : List String :=
  ["JAN", "FEB", "MAR", "APR", "MAY", "JUN", "JUL", "AUG", "SEP", "OCT", "NOV", "DEC"]

/-- The number of the month that a text starts with, zero if there is none. -/
def monthRank (cs : Chars) : Nat :=
  let name := String.ofList (((withoutStart cs).take 3).map Char.toUpper)
  match monthNames.findIdx? (· == name) with
  | some k => k + 1
  | none => 0

/-- Compares bytes. -/
def compareBytes (a b : Chars) : Ordering := signOf a b

/-! ## 2. Versions -/

/-- Where the ending of a file name starts: the last dots, each with a letter or a tilde after it
and then letters, digits and tildes. -/
def endingLength (cs : Chars) : Nat :=
  go 0 0 false cs.reverse
where
  isInside (c : Char) : Bool := isAsciiAlphanumeric c || c == '~'
  go (seen best : Nat) (mayStart : Bool) : Chars → Nat
    | [] => best
    | c :: cs =>
      if c == '.' then
        if mayStart && !cs.isEmpty then go (seen + 1) (seen + 1) false cs else best
      else if isInside c then go (seen + 1) best (isAsciiLetter c || c == '~') cs
      else best

/-- The rank of a character in a version: a tilde before the end, letters before others. -/
def versionRank (c? : Option Char) : Int :=
  match c? with
  | none => -1
  | some c =>
    if c == '~' then -2
    else if isDecimal c then 0
    else if isAsciiLetter c then c.toNat
    else c.toNat + 256

/-- Compares texts in which numbers count by their value. -/
def compareVersionParts : Nat → Chars → Chars → Ordering
  | 0, _, _ => .eq
  | _, [], [] => .eq
  | n + 1, a, b =>
    let isOther (c : Char) : Bool := !isDecimal c
    let (p, q) := (a.takeWhile isOther, b.takeWhile isOther)
    match compareOthers (p.length + q.length + 1) p q (a.drop p.length) (b.drop q.length) with
    | .eq =>
      let (a, b) := (a.drop p.length, b.drop q.length)
      let (ds, es) := (a.takeWhile isDecimal, b.takeWhile isDecimal)
      match signOf (numberOf 10 ds) (numberOf 10 es) with
      | .eq => compareVersionParts n (a.drop ds.length) (b.drop es.length)
      | o => o
    | o => o
where
  rankAt (cs rest : Chars) : Int :=
    match cs with
    | c :: _ => versionRank (some c)
    | [] => if rest.isEmpty then -1 else 0
  compareOthers : Nat → Chars → Chars → Chars → Chars → Ordering
    | 0, _, _, _, _ => .eq
    | _, [], [], _, _ => .eq
    | n + 1, p, q, a, b =>
      match signOf (rankAt p a) (rankAt q b) with
      | .eq => compareOthers n (p.drop 1) (q.drop 1) a b
      | o => o

/-- Compares names as versions: first without their endings, hidden ones first. -/
def compareVersions (a b : Chars) : Ordering :=
  if a = b then .eq
  else
    match a, b with
    | [], _ => .lt
    | _, [] => .gt
    | _, _ =>
      let special (cs : Chars) : Nat :=
        if cs = ['.'] then 0 else if cs = ['.', '.'] then 1
        else if cs.head? = some '.' then 2 else 3
      match signOf (special a) (special b) with
      | .eq =>
        let body (cs : Chars) : Chars := cs.take (cs.length - endingLength cs)
        let rounds := a.length + b.length + 1
        match compareVersionParts rounds (body a) (body b) with
        | .eq => compareVersionParts rounds a b
        | o => o
      | o => o

/-! ## 3. Keys -/

/-- How a key is compared. -/
structure KeyStyle where
  /-- Letters of the ways to compare and of what is left out. -/
  letters : Chars := []
  skipsStart : Bool := false
  skipsEnd : Bool := false
  deriving DecidableEq, Inhabited

namespace KeyStyle

/-- Whether a letter is given. -/
def has (s : KeyStyle) (c : Char) : Bool := s.letters.contains c

/-- Whether nothing but the direction is given. -/
def isPlain (s : KeyStyle) : Bool :=
  !s.skipsStart && !s.skipsEnd && s.letters.all (· == 'r')

/-- A part of a line as it is compared as text. -/
def shown (s : KeyStyle) (cs : Chars) : Chars :=
  let cs := if s.has 'd' then cs.filter fun c => isWordGap c || isAsciiAlphanumeric c
    else if s.has 'i' then cs.filter fun c => ' ' ≤ c && c ≤ '~' else cs
  if s.has 'f' then cs.map Char.toUpper else cs

/-- Compares two parts of lines. -/
def compare (s : KeyStyle) (a b : Chars) : Ordering :=
  let o :=
    if s.has 'n' then compareNumbers a b
    else if s.has 'g' then compareQuantities a b
    else if s.has 'h' then compareUnits a b
    else if s.has 'M' then signOf (monthRank a) (monthRank b)
    else if s.has 'V' then compareVersions a b
    else compareBytes (s.shown a) (s.shown b)
  if s.has 'r' then o.swap else o

/-- The ways to compare that are given and exclude each other, if there are several. -/
def conflict? (s : KeyStyle) : Option Chars :=
  let kinds := "ghMn".toList.filter s.has
  let others := "VRdi".toList.any s.has
  if kinds.length + (if others then 1 else 0) > 1 then
    some ("dfghiMnRV".toList.filter s.has)
  else none

end KeyStyle

/-- A position in a line: fields to be passed over, and characters after them. -/
structure LineSpot where
  fields : Nat
  characters : Nat := 0
  deriving DecidableEq, Inhabited

/-- A key: where it starts and ends, and how it is compared. -/
structure SortKey where
  start : LineSpot := ⟨0, 0⟩
  /-- Where the key ends, if not with the line. -/
  stop? : Option LineSpot := none
  style : KeyStyle := {}
  deriving Inhabited

/-- What is left of a line after some fields; the delimiter after the last one is kept or not. -/
def afterFields (tab? : Option Char) (keepsLast : Bool) : Nat → Chars → Chars
  | 0, cs => cs
  | n + 1, cs =>
    match tab? with
    | some tab =>
      let rest := cs.dropWhile (· != tab)
      if n = 0 && keepsLast then rest else afterFields tab? keepsLast n (rest.drop 1)
    | none =>
      afterFields tab? keepsLast n ((cs.dropWhile isWordGap).dropWhile (!isWordGap ·))

namespace SortKey

/-- What is left of a line from the start of a key. -/
def fromStart (k : SortKey) (tab? : Option Char) (line : Chars) : Chars :=
  let rest := afterFields tab? false k.start.fields line
  let rest := if k.style.skipsStart then withoutStart rest else rest
  rest.drop k.start.characters

/-- What is left of a line after the end of a key. -/
def afterStop (k : SortKey) (tab? : Option Char) (line : Chars) : Chars :=
  match k.stop? with
  | none => []
  | some s =>
    if s.characters = 0 then afterFields tab? true (s.fields + 1) line
    else
      let rest := afterFields tab? false s.fields line
      let rest := if k.style.skipsEnd then withoutStart rest else rest
      rest.drop s.characters

/-- The part of a line that a key means. -/
def part (k : SortKey) (tab? : Option Char) (line : Chars) : Chars :=
  let rest := k.fromStart tab? line
  rest.take (rest.length - (k.afterStop tab? line).length)

/-- Compares two lines by one key. -/
def compare (k : SortKey) (tab? : Option Char) (a b : Chars) : Ordering :=
  k.style.compare (k.part tab? a) (k.part tab? b)

end SortKey

/-- An order of lines: its keys, and whether lines with equal keys are compared as a whole. -/
structure LineOrder where
  keys : List SortKey := []
  tab? : Option Char := none
  isReverse : Bool := false
  /-- Whether lines with equal keys are left as they are. -/
  isStable : Bool := false
  deriving Inhabited

namespace LineOrder

/-- Compares two lines by the keys. -/
def compareKeys (o : LineOrder) (a b : Chars) : Ordering :=
  o.keys.foldl (fun r k => r.then (k.compare o.tab? a b)) .eq

/-- Compares two lines. -/
def compare (o : LineOrder) (a b : Chars) : Ordering :=
  let whole := if o.isReverse then (compareBytes a b).swap else compareBytes a b
  if o.keys.isEmpty then whole
  else if o.isStable then o.compareKeys a b
  else (o.compareKeys a b).then whole

/-- Lines in order; those that compare equal stay in theirs. -/
def sort (o : LineOrder) (rows : List Chars) : List Chars :=
  rows.mergeSort fun a b => (o.compare a b) != .gt

end LineOrder

end LintRun.Utility

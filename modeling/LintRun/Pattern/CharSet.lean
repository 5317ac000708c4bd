import LintRun.Unicode.Folding
import LintRun.Unicode.Lookup

/-!
# Sets of characters in patterns

A set is the list of its longest stretches of code points, in ascending order and apart from
each other, so that equal sets are written alike.  Surrogates are no characters and are in no
set.  Every set is built by `CharSet.ofRanges`; `CharSet.has` decides membership.
-/

namespace LintRun

/-- A set of characters. -/
structure CharSet where
  /-- First and last code points of the stretches. -/
  stretches : Array (Nat × Nat)
  deriving Inhabited, DecidableEq

namespace CharSet

/-- Whether a code point is in a set. -/
def hasPoint (s : CharSet) (n : Nat) : Bool :=
  match s.stretches[Unicode.Runs.search s.stretches n 0 s.stretches.size]? with
  | some (first, last) => first ≤ n && n ≤ last
  | none => false

/-- Whether a character is in a set. -/
def has (s : CharSet) (c : Char) : Bool := s.hasPoint c.toNat

/-! ## 1. Building sets -/

/-- The code points that are no characters. -/
def surrogates : Nat × Nat := (0xD800, 0xDFFF)

/-- Ranges in the order of their starts, with those joined that overlap or touch. -/
def joined : List (Nat × Nat) → List (Nat × Nat)
  | [] => []
  | [r] => [r]
  | (a, b) :: (c, d) :: rest =>
    if c ≤ b + 1 then joined ((a, max b d) :: rest) else (a, b) :: joined ((c, d) :: rest)
termination_by ranges => ranges.length

/-- The members of any of some ranges. -/
def ofRanges (ranges : List (Nat × Nat)) : CharSet :=
  let cut := (ranges.filter fun (a, b) => a ≤ b).flatMap (Unicode.cutOne surrogates)
  ⟨(joined (cut.mergeSort fun r t => r.1 ≤ t.1)).toArray⟩

/-- The ranges of a set. -/
def ranges (s : CharSet) : List (Nat × Nat) := s.stretches.toList

/-- No characters. -/
def empty : CharSet := ofRanges []

/-- Every character. -/
def all : CharSet := ofRanges Unicode.everything

/-- The characters of ASCII. -/
def ascii : CharSet := ofRanges [(0, 0x7F)]

/-- The characters from one to another. -/
def range (low high : Char) : CharSet := ofRanges [(low.toNat, high.toNat)]

/-- The set of one character. -/
def ofChar (c : Char) : CharSet := range c c

/-- Some characters. -/
def ofChars (cs : List Char) : CharSet := ofRanges (cs.map fun c => (c.toNat, c.toNat))

/-- The members of two sets. -/
def union (s t : CharSet) : CharSet := ofRanges (s.ranges ++ t.ranges)

/-- The members of any of some sets. -/
def unionOf (sets : List CharSet) : CharSet := ofRanges (sets.flatMap ranges)

/-- What ascending ranges leave out from a code point on. -/
def gaps (next : Nat) : List (Nat × Nat) → List (Nat × Nat)
  | [] => [(next, Unicode.Runs.lastPoint)]
  | (a, b) :: rest => if next < a then (next, a - 1) :: gaps (b + 1) rest else gaps (b + 1) rest

/-- The characters that are not in a set. -/
def complement (s : CharSet) : CharSet := ofRanges (gaps 0 s.ranges)

/-- The common members of two sets. -/
def intersection (s t : CharSet) : CharSet := (s.complement.union t.complement).complement

/-- The members of one set that are not in another. -/
def difference (s t : CharSet) : CharSet := s.intersection t.complement

/-- The members of exactly one of two sets. -/
def symmetricDifference (s t : CharSet) : CharSet := (s.difference t).union (t.difference s)

/-- The characters that differ from a member in case at most. -/
def folded (s : CharSet) : CharSet :=
  let met := Unicode.foldings.filter fun (c, f) => s.hasPoint c || s.hasPoint f
  let folds := ofRanges (met.map fun (_, f) => (f, f))
  let variants := (Unicode.foldings.filter fun (_, f) => folds.hasPoint f).map (·.1)
  ofRanges (s.ranges ++ folds.ranges ++ variants.map fun c => (c, c))

/-- A set, or all other characters. -/
def complementIf (negated : Bool) (s : CharSet) : CharSet := if negated then s.complement else s

/-! ## 2. Kinds of sets -/

/-- Whether a set has no members. -/
def isEmpty (s : CharSet) : Bool := s.stretches.isEmpty

/-- Whether all members are ASCII. -/
def isAscii (s : CharSet) : Bool := s.stretches.all fun (_, last) => last < 0x80

/-- The member of a set that has just one. -/
def single? (s : CharSet) : Option Char :=
  match s.ranges with
  | [(a, b)] => if a = b then some (Char.ofNat a) else none
  | _ => none

/-! ## 3. Named sets -/

/-- ASCII characters between pairs of characters. -/
def ofPairs (pairs : List (Char × Char)) : CharSet :=
  ofRanges (pairs.map fun (a, b) => (a.toNat, b.toNat))

/-- The members of an ASCII class such as `alpha`. -/
def asciiClass? : String → Option CharSet
  | "alnum" => some (ofPairs [('0', '9'), ('A', 'Z'), ('a', 'z')])
  | "alpha" => some (ofPairs [('A', 'Z'), ('a', 'z')])
  | "ascii" => some ascii
  | "blank" => some (ofPairs [('\t', '\t'), (' ', ' ')])
  | "cntrl" => some (ofRanges [(0, 0x1F), (0x7F, 0x7F)])
  | "digit" => some (ofPairs [('0', '9')])
  | "graph" => some (ofPairs [('!', '~')])
  | "lower" => some (ofPairs [('a', 'z')])
  | "print" => some (ofPairs [(' ', '~')])
  | "punct" => some (ofPairs [('!', '/'), (':', '@'), ('[', '\x60'), ('\x7b', '~')])
  | "space" => some (ofPairs [('\t', '\r'), (' ', ' ')])
  | "upper" => some (ofPairs [('A', 'Z')])
  | "word" => some (ofPairs [('0', '9'), ('A', 'Z'), ('_', '_'), ('a', 'z')])
  | "xdigit" => some (ofPairs [('0', '9'), ('A', 'F'), ('a', 'f')])
  | _ => none

/-- The decimal digits of all scripts. -/
def unicodeDigits : CharSet := ofRanges (Unicode.categoryRuns.ranges (· == "Nd"))

/-- All blanks. -/
def unicodeBlanks : CharSet := ofRanges (Unicode.propertyRanges "White_Space")

/-- The characters of words in all scripts: letters, marks, digits, connectors. -/
def unicodeWordChars : CharSet :=
  ofRanges (Unicode.propertyRanges "Alphabetic" ++ Unicode.propertyRanges "Join_Control" ++
    Unicode.categoryRuns.ranges fun value =>
      Unicode.isCategoryOf "M" value || value == "Nd" || value == "Pc")

/-- The characters of ASCII words. -/
def asciiWordChars : CharSet := ofPairs [('0', '9'), ('A', 'Z'), ('_', '_'), ('a', 'z')]

/-- Decimal digits: of all scripts, or of ASCII. -/
def digits (unicode : Bool) : CharSet :=
  if unicode then unicodeDigits else ofPairs [('0', '9')]

/-- Blanks. -/
def blanks (unicode : Bool) : CharSet :=
  if unicode then unicodeBlanks else ofPairs [('\t', '\r'), (' ', ' ')]

/-- The characters of words. -/
def wordChars (unicode : Bool) : CharSet := if unicode then unicodeWordChars else asciiWordChars

end CharSet

end LintRun

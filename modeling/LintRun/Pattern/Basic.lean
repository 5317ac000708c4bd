import LintRun.Pattern.CharSet

/-!
# Patterns

A pattern is a regular expression over characters with tests on the place between two
characters.  It is built by functions that keep it simple: neighbouring literals are one,
sequences and choices are not nested in themselves, a choice of characters is a set, and what
all alternatives start with stands in front of them.

These modules model the library that `from_patterns` compiles its patterns with, as far as the
program depends on it: which texts are patterns, and which lines contain a match.
-/

namespace LintRun

/-- A test on a place in a text. -/
inductive Anchor
  | textStart
  | textEnd
  /-- After a line feed; in the other mode after any line end. -/
  | lineStart (anyEnd : Bool)
  | lineEnd (anyEnd : Bool)
  | wordEdge (unicode : Bool)
  | noWordEdge (unicode : Bool)
  | wordStart (unicode : Bool)
  | wordEnd (unicode : Bool)
  /-- No word character before the place. -/
  | wordStartHalf (unicode : Bool)
  /-- No word character after the place. -/
  | wordEndHalf (unicode : Bool)
  deriving DecidableEq

/-- A regular expression. -/
inductive Pattern
  | empty
  | literal (cs : List Char)
  | oneOf (s : CharSet)
  | anchor (a : Anchor)
  | repeated (p : Pattern) (least : Nat) (most : Option Nat)
  /-- A group whose match is kept under a number. -/
  | group (index : Nat) (p : Pattern)
  | sequence (ps : List Pattern)
  | choice (ps : List Pattern)
  deriving Inhabited, BEq

namespace Pattern

/-! ## 1. What a match consists of -/

mutual

/-- The least number of characters of a match; `none` if a part can match nothing at all. -/
def leastLength? : Pattern → Option Nat
  | .empty => some 0
  | .literal cs => some cs.length
  | .oneOf s => if s.isEmpty then none else some 1
  | .anchor _ => some 0
  | .repeated p least _ => p.leastLength?.map (· * least)
  | .group _ p => p.leastLength?
  | .sequence ps => leastLengthOfAll? ps
  | .choice ps => leastLengthOfAny? ps

/-- The least number of characters of matches of some patterns one after the other. -/
def leastLengthOfAll? : List Pattern → Option Nat
  | [] => some 0
  | p :: ps => do return (← p.leastLength?) + (← leastLengthOfAll? ps)

/-- The least number of characters of a match of one of some patterns. -/
def leastLengthOfAny? : List Pattern → Option Nat
  | [] => none
  | [p] => p.leastLength?
  | p :: ps => do return min (← p.leastLength?) (← leastLengthOfAny? ps)

end

mutual

/-- Whether every match is empty. -/
def isWidthless : Pattern → Bool
  | .empty | .anchor _ => true
  | .literal _ | .oneOf _ => false
  | .repeated p _ _ | .group _ p => p.isWidthless
  | .sequence ps | .choice ps => areWidthless ps

/-- Whether every match of any of some patterns is empty. -/
def areWidthless : List Pattern → Bool
  | [] => true
  | p :: ps => p.isWidthless && areWidthless ps

end

mutual

/-- Whether every match starts with a test that is passed there. -/
def startsWith (a : Anchor) : Pattern → Bool
  | .anchor b => a == b
  | .empty | .literal _ | .oneOf _ => false
  | .repeated p least _ => least > 0 && p.startsWith a
  | .group _ p => p.startsWith a
  | .sequence ps => oneStartsWith a ps
  | .choice ps => allStartWith a ps

/-- Whether one of some patterns in front of the first that reads starts with a test. -/
def oneStartsWith (a : Anchor) : List Pattern → Bool
  | [] => false
  | p :: ps => p.startsWith a || (p.isWidthless && oneStartsWith a ps)

/-- Whether all of some patterns start with a test. -/
def allStartWith (a : Anchor) : List Pattern → Bool
  | [] => true
  | p :: ps => p.startsWith a && allStartWith a ps

end

mutual

/-- Whether every match ends with a test that is passed there. -/
def endsWith (a : Anchor) : Pattern → Bool
  | .anchor b => a == b
  | .empty | .literal _ | .oneOf _ => false
  | .repeated p least _ => least > 0 && p.endsWith a
  | .group _ p => p.endsWith a
  | .sequence ps => oneEndsWith a ps
  | .choice ps => allEndWith a ps

/-- Whether one of some patterns after the last that reads ends with a test. -/
def oneEndsWith (a : Anchor) : List Pattern → Bool
  | [] => false
  | p :: ps => oneEndsWith a ps || (areWidthless ps && p.endsWith a)

/-- Whether all of some patterns end with a test. -/
def allEndWith (a : Anchor) : List Pattern → Bool
  | [] => true
  | p :: ps => p.endsWith a && allEndWith a ps

end

/-! ## 2. Simple patterns -/

/-- One character of a set. -/
def ofSet (s : CharSet) : Pattern :=
  match s.single? with
  | some c => .literal [c]
  | none => .oneOf s

/-- Repeats a pattern; what matches only the empty text is not repeated more than once. -/
def repeatedly (p : Pattern) (least : Nat) (most : Option Nat) : Pattern :=
  let (least, most) :=
    if p.isWidthless then (min least 1, some (min (most.getD 1) 1)) else (least, most)
  if least = 0 && most = some 0 then .empty
  else if least = 1 && most = some 1 then p
  else .repeated p least most

/-- The parts of a pattern in a sequence. -/
def parts : Pattern → List Pattern
  | .empty => []
  | .sequence ps => ps
  | p => [p]

/-- Puts a pattern in front of others; two literals become one. -/
def joinFront : Pattern → List Pattern → List Pattern
  | .literal cs, .literal ds :: ps => .literal (cs ++ ds) :: ps
  | p, ps => p :: ps

/-- Patterns one after the other. -/
def inSequence (ps : List Pattern) : Pattern :=
  match (ps.flatMap parts).foldr joinFront [] with
  | [] => .empty
  | [p] => p
  | qs => .sequence qs

/-- The characters of some patterns that are one character each. -/
def charsOf? : List Pattern → Option (List Char)
  | [] => some []
  | .literal [c] :: ps => (charsOf? ps).map (c :: ·)
  | _ => none

/-- The sets of some patterns that are one character of a set each. -/
def setsOf? : List Pattern → Option (List CharSet)
  | [] => some []
  | .oneOf s :: ps => (setsOf? ps).map (s :: ·)
  | _ => none

/-- What two lists start with. -/
def commonFront : List Pattern → List Pattern → List Pattern
  | p :: ps, q :: qs => if p == q then p :: commonFront ps qs else []
  | _, _ => []

/-- The parts of some patterns that are sequences. -/
def sequencesOf? : List Pattern → Option (List (List Pattern))
  | [] => some []
  | .sequence ps :: qs => (sequencesOf? qs).map (ps :: ·)
  | _ => none

/-- The parts that all of some sequences start with, and what each has after them. -/
def shared? (ps : List Pattern) : Option (List Pattern × List (List Pattern)) :=
  match sequencesOf? ps with
  | some (first :: second :: others) =>
    let front := (second :: others).foldl commonFront first
    if front.isEmpty then none
    else some (front, (first :: second :: others).map (·.drop front.length))
  | _ => none

/-- The alternatives of a pattern in a choice. -/
def alternativesOf : Pattern → List Pattern
  | .choice ps => ps
  | p => [p]

/-- Alternatives, where common fronts are taken out at most `depth` times. -/
def inChoiceTo : Nat → List Pattern → Pattern
  | 0, ps => .choice ps
  | depth + 1, ps =>
    let ps := ps.flatMap alternativesOf
    match ps with
    | [] => .oneOf .empty
    | [p] => p
    | ps =>
      match charsOf? ps, setsOf? ps with
      | some cs, _ => ofSet (.ofChars cs)
      | none, some sets => ofSet (.unionOf sets)
      | none, none =>
        match shared? ps with
        | some (front, rests) =>
          inSequence (front ++ [inChoiceTo depth (rests.map inSequence)])
        | none => .choice ps

/-- One of some patterns.  Without a front that all share, the alternatives have none that
could be shared next, so one further step is enough. -/
def inChoice (ps : List Pattern) : Pattern := inChoiceTo 2 ps

end Pattern

end LintRun

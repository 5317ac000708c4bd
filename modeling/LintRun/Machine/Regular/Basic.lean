import LintRun.Text.Octets

/-!
# Regular expressions of utilities

The expressions by which the programs of a machine search: leftmost and longest, with groups that
are noted and can be referred to.  `Regular.ends` tells where matches from a place end; a place is
reached once, by the way that takes the most as early as it can.

These are not the patterns of a registry (`Pattern`), which are searched for in another way.
-/

namespace LintRun

/-- Something that holds between two characters. -/
inductive Border
  | lineStart
  | lineEnd
  | wordStart
  | wordEnd
  | word
  | noWord
  | textStart
  | textEnd
  deriving DecidableEq, Inhabited

/-- A regular expression. -/
inductive Regular
  | empty
  | one (fits : Char → Bool)
  | border (b : Border)
  | both (first second : Regular)
  | either (first second : Regular)
  | times (least : Nat) (most? : Option Nat) (inner : Regular)
  | group (number : Nat) (inner : Regular)
  | again (number : Nat)
  deriving Inhabited

namespace Regular

/-- What the groups of a match are: for each number, where it starts and ends. -/
abbrev Groups := List (Nat × Nat × Nat)

/-- The end of a match: how many characters were read, and the groups. -/
abbrev Reached := Nat × Groups

/-- A text that is searched. -/
structure Subject where
  text : Array Char
  /-- Whether letters of both cases are the same. -/
  isCaseless : Bool := false
  /-- Whether the start and the end of the text are those of a line. -/
  startsLine : Bool := true
  endsLine : Bool := true
  deriving Inhabited

/-- Whether a character belongs to words. -/
def isWordChar (c : Char) : Bool :=
  ('a' ≤ c && c ≤ 'z') || ('A' ≤ c && c ≤ 'Z') || ('0' ≤ c && c ≤ '9') || c == '_'

/-- A character with the case left out. -/
def Subject.folded (s : Subject) (c : Char) : Char := if s.isCaseless then c.toLower else c

/-- Whether a border is at a place. -/
def holdsAt (s : Subject) (n : Nat) (b : Border) : Bool :=
  let before : Bool := match n with
    | 0 => false
    | k + 1 => (s.text[k]?).any isWordChar
  let after := (s.text[n]?).any isWordChar
  match b with
  | .lineStart => n = 0 && s.startsLine
  | .lineEnd => n = s.text.size && s.endsLine
  | .textStart => n = 0
  | .textEnd => n = s.text.size
  | .wordStart => !before && after
  | .wordEnd => before && !after
  | .word => before != after
  | .noWord => before == after

/-- Ways to the same place with the same groups, once. -/
def settled (keepsGroups : Bool) (rs : List Reached) : List Reached :=
  rs.foldr (fun r rest =>
    r :: rest.filter fun q => q.1 != r.1 || (keepsGroups && q.2 != r.2)) []

/-- Ways that read the most come first. -/
def longestFirst (rs : List Reached) : List Reached :=
  rs.mergeSort fun a b => decide (b.1 ≤ a.1)

/-- Whether a group is referred to. -/
def refers : Regular → Bool
  | .again _ => true
  | .both a b | .either a b => a.refers || b.refers
  | .times _ _ a | .group _ a => a.refers
  | _ => false

/-- The numbers of the groups in an expression. -/
def numbers : Regular → List Nat
  | .both a b | .either a b => a.numbers ++ b.numbers
  | .times _ _ a => a.numbers
  | .group k a => k :: a.numbers
  | _ => []

/-- The places that rounds of something lead to.  A round that reads nothing is the last one. -/
def rounds (keepsGroups : Bool) (step : Reached → List Reached) (least : Nat)
    (most? : Option Nat) : Nat → (done : Nat) → List Reached → List Reached
  | 0, _, rs => rs
  | n + 1, done, rs =>
    let stops := if least ≤ done then rs else []
    if most? = some done || rs.isEmpty then stops
    else
      let next := settled keepsGroups <| rs.flatMap fun r =>
        (step r).filter fun q => q.1 != r.1 || done < least
      rounds keepsGroups step least most? n (done + 1) next ++ stops

/-- Where matches of an expression from a place end, with the groups they note. -/
def ends (s : Subject) (keepsGroups : Bool) : Regular → Reached → List Reached
  | .empty, r => [r]
  | .one fits, (n, gs) =>
    match s.text[n]? with
    | some c => if fits (s.folded c) || fits c || (s.isCaseless && fits c.toUpper) then
        [(n + 1, gs)] else []
    | none => []
  | .border b, (n, gs) => if holdsAt s n b then [(n, gs)] else []
  | .both a b, r =>
    settled keepsGroups ((longestFirst (ends s keepsGroups a r)).flatMap (ends s keepsGroups b))
  | .either a b, r =>
    settled keepsGroups (ends s keepsGroups a r ++ ends s keepsGroups b r)
  | .times least most? a, r =>
    let inside := a.numbers
    let cleared (q : Reached) : Reached := (q.1, q.2.filter fun g => !inside.contains g.1)
    let step (q : Reached) : List Reached := longestFirst (ends s keepsGroups a (cleared q))
    settled keepsGroups
      (rounds keepsGroups step least most? (s.text.size + least + 2) 0 [r])
  | .group k a, (n, gs) =>
    (ends s keepsGroups a (n, gs)).map fun (m, gs) => (m, (k, n, m) :: gs.filter (·.1 != k))
  | .again k, (n, gs) =>
    match gs.lookup k with
    | none => []
    | some (start, stop) =>
      let part := (s.text.extract start stop).map s.folded
      if (s.text.extract n (n + part.size)).map s.folded = part then [(n + part.size, gs)] else []

/-- The longest match from a place. -/
def matchAt? (s : Subject) (r : Regular) (n : Nat) : Option Reached :=
  (longestFirst (ends s r.refers r (n, []))).head?

end Regular

end LintRun

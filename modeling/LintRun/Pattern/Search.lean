import LintRun.Pattern.Basic

/-!
# Searching for matches

A search reads a text once.  `Progress` is a pattern in which marks stand at the characters
that were read last: each mark is a match that has come that far.  `Progress.step` moves the
marks over one more character, `Progress.finishes` says whether a mark has reached the end.
Numbered repetitions are written out, the copies sharing what they have not yet read.
-/

namespace LintRun

/-- A spot in a text: the characters before and after it, none at an end. -/
structure Spot where
  before : Option Char
  after : Option Char

/-- Whether a place passes a test. -/
def Anchor.holds (a : Anchor) (here : Spot) : Bool :=
  let word (unicode : Bool) (c : Option Char) : Bool := c.any (CharSet.wordChars unicode).has
  match a with
  | .textStart => here.before.isNone
  | .textEnd => here.after.isNone
  | .lineStart false => here.before.all (· == '\n')
  | .lineEnd false => here.after.all (· == '\n')
  | .lineStart true =>
    match here.before with
    | none => true
    | some c => c == '\n' || (c == '\r' && here.after != some '\n')
  | .lineEnd true =>
    match here.after with
    | none => true
    | some c => c == '\r' || (c == '\n' && here.before != some '\r')
  | .wordEdge u => word u here.before != word u here.after
  | .noWordEdge u => word u here.before == word u here.after
  | .wordStart u => !word u here.before && word u here.after
  | .wordEnd u => word u here.before && !word u here.after
  | .wordStartHalf u => !word u here.before
  | .wordEndHalf u => !word u here.after

/-- A pattern with marks; `busy` says whether there is one inside. -/
inductive Progress
  | nothing
  | test (a : Anchor)
  | read (s : CharSet) (marked : Bool)
  | both (busy : Bool) (p q : Progress)
  | either (busy : Bool) (p q : Progress)
  /-- Once or more often. -/
  | again (busy : Bool) (p : Progress)
  deriving Inhabited

namespace Progress

/-! ## 1. Moving on -/

/-- Whether there is a mark. -/
def isBusy : Progress → Bool
  | .nothing | .test _ => false
  | .read _ marked => marked
  | .both busy _ _ | .either busy _ _ | .again busy _ => busy

/-- Whether a place may be passed without reading. -/
def passes (here : Spot) : Progress → Bool
  | .nothing => true
  | .test a => a.holds here
  | .read _ _ => false
  | .both _ p q => p.passes here && q.passes here
  | .either _ p q => p.passes here || q.passes here
  | .again _ p => p.passes here

/-- Whether a mark can get to the end without reading more. -/
def finishes (here : Spot) : Progress → Bool
  | .nothing | .test _ => false
  | .read _ marked => marked
  | .both busy p q => busy && (q.finishes here || (p.finishes here && q.passes here))
  | .either busy p q => busy && (p.finishes here || q.finishes here)
  | .again busy p => busy && p.finishes here

/-- Reads one character; with `enter` a match may also start at this place. -/
def step (here : Spot) (c : Char) (enter : Bool) : Progress → Progress
  | .nothing => .nothing
  | .test a => .test a
  | .read s marked => if enter || marked then .read s (enter && s.has c) else .read s marked
  | .both busy p q =>
    if enter || busy then
      let next := q.step here c ((enter && p.passes here) || p.finishes here)
      let first := p.step here c enter
      .both (first.isBusy || next.isBusy) first next
    else .both busy p q
  | .either busy p q =>
    if enter || busy then
      let p := p.step here c enter
      let q := q.step here c enter
      .either (p.isBusy || q.isBusy) p q
    else .either busy p q
  | .again busy p =>
    if enter || busy then
      let p := p.step here c (enter || p.finishes here)
      .again p.isBusy p
    else .again busy p

/-- Whether a match ends somewhere in the rest of a text; one may start anywhere in it. -/
def reaches (p : Progress) (before : Option Char) : List Char → Bool
  | [] => p.finishes ⟨before, none⟩ || p.passes ⟨before, none⟩
  | c :: cs =>
    let here : Spot := ⟨before, some c⟩
    p.finishes here || p.passes here || (p.step here c true).reaches (some c) cs

/-! ## 2. Patterns without marks -/

/-- One after the other. -/
def andThen (p q : Progress) : Progress :=
  match p, q with
  | .nothing, q => q
  | p, .nothing => p
  | p, q => .both false p q

/-- Joins neighbours in pairs until one is left, so that no part is deep inside. -/
def inPairs (join : Progress → Progress → Progress) : List Progress → List Progress
  | p :: q :: ps => join p q :: inPairs join ps
  | ps => ps

/-- All of some in a row, `rounds` times joined in pairs. -/
def inRow (join : Progress → Progress → Progress) (none : Progress) :
    Nat → List Progress → Progress
  | _, [] => none
  | _, [p] => p
  | 0, p :: ps => ps.foldl join p
  | rounds + 1, ps => inRow join none rounds (inPairs join ps)

/-- Enough rounds for a row of some length. -/
def rounds (ps : List Progress) : Nat := ps.length.log2 + 1

/-- A number of copies, one after the other. -/
def copies (p : Progress) (n : Nat) : Progress :=
  if n = 0 then .nothing
  else if n = 1 then p
  else
    let half := copies p (n / 2)
    andThen (andThen half half) (if n % 2 = 1 then p else .nothing)
termination_by n

/-- Repeats between the bounds. -/
def times (p : Progress) (least : Nat) : Option Nat → Progress
  | some most => andThen (copies p least) (copies (.either false p .nothing) (most - least))
  | none =>
    if least = 0 then .either false (.again false p) .nothing
    else andThen (copies p (least - 1)) (.again false p)

mutual

/-- A pattern before anything is read. -/
def ofPattern : Pattern → Progress
  | .empty => .nothing
  | .literal cs =>
    let reads := cs.map fun c => .read (.ofChar c) false
    inRow andThen .nothing (rounds reads) reads
  | .oneOf s => .read s false
  | .anchor a => .test a
  | .repeated p least most => times (ofPattern p) least most
  | .group _ p => ofPattern p
  | .sequence ps =>
    let row := ofPatterns ps
    inRow andThen .nothing (rounds row) row
  | .choice ps =>
    let row := ofPatterns ps
    inRow (.either false) (.read .empty false) (rounds row) row

/-- Each of some patterns before anything is read. -/
def ofPatterns : List Pattern → List Progress
  | [] => []
  | p :: ps => ofPattern p :: ofPatterns ps

end

end Progress

/-- Whether a match of a pattern starts and ends somewhere in a text. -/
def Pattern.occursIn (p : Pattern) (text : String) : Bool :=
  (Progress.ofPattern p).reaches none text.toList

end LintRun

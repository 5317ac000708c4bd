import LintRun.Pattern.Basic
import LintRun.Pattern.ByteRanges
import LintRun.Text.Utf8
import Std.Data.HashMap

/-!
# The size of patterns

A pattern is refused if an automaton for it would be too large.  The automaton works on the
bytes of UTF-8; there is one that reads forward and one that reads backward, and each of them
has to fit.  `Draft` counts the states and bytes of an automaton while it is drawn up; what
else there is to an automaton does not matter here, except that equal ends of the sequences
of one set share their states as far as a table of bounded size remembers them.
-/

namespace LintRun.Pattern

/-! ## 1. Drafts -/

/-- How much of an automaton there is. -/
structure Draft where
  states : Nat := 0
  bytes : Nat := 0

/-- Draws a part of an automaton; fails if it gets too large. -/
abbrev Drawing (α : Type) := StateT Draft Option α

namespace Draft

/-- The largest automaton that is accepted, in bytes. -/
def limit : Nat := 10485760

/-- What every state takes. -/
def stateBytes : Nat := 32

/-- What a state takes for each range of bytes that leads on from it. -/
def arrowBytes : Nat := 8

/-- What a fork takes for each way on. -/
def wayBytes : Nat := 4

/-- Adds states and bytes. -/
def add (states bytes : Nat) : Drawing Unit := fun d =>
  let d := { states := d.states + states, bytes := d.bytes + bytes : Draft }
  if d.bytes ≤ limit then some ((), d) else none

/-- Adds states that take some bytes beside what every state takes. -/
def draw (count : Nat) (others : Nat) : Drawing Unit :=
  add count (count * stateBytes + others)

/-- Whether the last state of a part is a fork, so that it takes more when it is left. -/
abbrev Forks := Bool

/-- Leaves a part. -/
def leave (forks : Forks) : Drawing Unit := add 0 (if forks then wayBytes else 0)

/-! ## 2. Sets -/

/-- The states that are remembered by what leads on from them, in numbered slots. -/
abbrev Memory := Std.HashMap Nat (List Nat × Nat)

/-- The slot of a list of numbers (their FNV-1a hash). -/
def slot (slots : Nat) (key : List Nat) : Nat :=
  (key.foldl (fun (h : UInt64) n => (h ^^^ n.toUInt64) * 1099511628211)
    14695981039346656037).toNat % slots

/-- The state with a given key: one that is remembered, or a new one. -/
def memorized (slots : Nat) (key : List Nat) (others : Nat) :
    StateT Memory (StateT Draft Option) Nat :=
  do
    let place := slot slots key
    match (← get)[place]? with
    | some (known, state) => if known == key then return state
    | none => pure ()
    let state := (← getThe Draft).states
    Draft.draw 1 others
    modify fun memory => memory.insert place (key, state)
    return state

/-- The state before some sequences of at most `depth` byte ranges; those that start alike
share their first range. -/
def before (done : Nat) : Nat → List (List CharSet.ByteRange) →
    StateT Memory (StateT Draft Option) Nat
  | 0, _ => return done
  | depth + 1, sequences => do
    let groups := sequences.splitBy fun s t => s.head? == t.head?
    let arrows ← groups.mapM fun group =>
      match group with
      | ((low, high) :: rest) :: _ => do
        let next ← if rest.isEmpty then pure done else before done depth (group.map List.tail)
        return [low, high, next]
      | _ => return []
    memorized 10000 arrows.flatten (arrows.length * arrowBytes)

/-- The state after the byte ranges of a sequence, read from its end. -/
def after : Nat → List CharSet.ByteRange → StateT Memory (StateT Draft Option) Nat
  | state, [] => return state
  | state, (low, high) :: rest => do
    let next ← memorized 1000 [state, low, high] 0
    after next rest

/-- One character of a set. -/
def set (backward : Bool) (s : CharSet) : Drawing Forks := do
  if s.isAscii then
    draw 2 (s.stretches.size * arrowBytes)
  else if backward then
    draw 1 0
    let done := (← get).states
    draw 1 0
    let ends : StateT Memory (StateT Draft Option) Unit := s.sequences.forM fun bytes => do
      let _ ← after done bytes
      leave true
    let _ ← ends.run {}
  else
    let done := (← get).states
    draw 1 0
    let _ ← (before done 4 s.sequences).run {}
  return false

/-! ## 3. Literals -/

/-- Texts between which an end comes, in order, split at these ends. -/
def chunks (texts : List (List UInt8)) : List (List (List UInt8)) :=
  texts.foldr (fun text chunks =>
    match text, chunks with
    | [], chunks => [] :: chunks
    | text, chunk :: chunks => (text :: chunk) :: chunks
    | text, [] => [[text]]) [[]]

/-- The texts after each of their first bytes. -/
def byFirst (texts : List (List UInt8)) : List (List (List UInt8)) :=
  (texts.filterMap List.head?).eraseDups.map fun b =>
    (texts.filter fun text => text.head? == some b).map List.tail

/-- The states and bytes for the texts that are left at a place where some of them part; the
text of most bytes has at most `depth` of them. -/
def parting : Nat → List (List UInt8) → Nat × Nat
  | 0, _ => (0, 0)
  | depth + 1, texts =>
    let chunks := (chunks texts).map byFirst
    let drawn := chunks.filter (!·.isEmpty)
    let ways := drawn.length + (chunks.length - 1)
    let own := drawn.map fun groups =>
      stateBytes + if groups.length = 1 then 0 else groups.length * arrowBytes
    let inner := (drawn.flatten.filter fun rest => rest.any (!·.isEmpty)).map (parting depth)
    inner.foldl (fun (n, b) (m, c) => (n + m, b + c))
      (drawn.length + 1, own.foldl (· + ·) (stateBytes + ways * wayBytes))

/-- One of some literals. -/
def literals (backward : Bool) (texts : List (List Char)) : Drawing Forks := do
  let bytes := texts.map fun cs => Utf8.encode (String.ofList cs)
  let bytes := if backward then bytes.map List.reverse else bytes
  let depth := (bytes.map List.length).foldl max 0 + 1
  draw 1 0
  let (count, size) := parting depth bytes
  add count size
  return false

/-! ## 4. Patterns -/

/-- A part drawn `n` times, each time from where the last one ends. -/
def inTurn (part : Drawing Forks) : Nat → Forks → Drawing Forks
  | 0, forks => return forks
  | n + 1, forks => fun d =>
    match (do let next ← part; leave forks; return next : Drawing Forks) d with
    | some (next, d) => inTurn part n next d
    | none => none

/-- A part drawn exactly `n` times. -/
def exactly (part : Drawing Forks) : Nat → Drawing Forks
  | 0 => do
    draw 1 0
    return false
  | n + 1 => do
    let forks ← part
    inTurn part n forks

/-- A part after a fork that may go around it. -/
def optional (part : Drawing Forks) : Drawing Forks := do
  draw 1 (2 * wayBytes)
  part

/-- A part drawn for each of its repetitions, of which there may be endlessly many. -/
def repeated (widthless : Bool) (part : Drawing Forks) (least : Nat) :
    Option Nat → Drawing Forks
  | none =>
    if least = 0 then
      if widthless then do
        let forks ← part
        leave forks
        draw 3 (4 * wayBytes)
        return false
      else do
        draw 1 wayBytes
        let forks ← part
        leave forks
        return true
    else do
      let forks ← if least = 1 then part else do
        let forks ← exactly part (least - 1)
        inTurn part 1 forks
      leave forks
      draw 1 wayBytes
      return true
  | some most =>
    if least = 0 ∧ most = 1 then do
      let forks ← optional part
      leave forks
      draw 1 0
      return false
    else if least = most then exactly part least
    else do
      let forks ← exactly part least
      draw 1 0
      let forks ← inTurn (optional part) (most - least) forks
      leave forks
      return false

/-- The texts of some patterns that are all literals. -/
def literalsOf? : List Pattern → Option (List (List Char))
  | [] => some []
  | .literal cs :: ps => (literalsOf? ps).map (cs :: ·)
  | _ => none

mutual

/-- Draws a pattern. -/
def pattern (backward : Bool) : Pattern → Drawing Forks
  | .empty | .anchor _ => do
    draw 1 0
    return false
  | .literal cs => do
    draw (Utf8.encode (String.ofList cs)).length 0
    return false
  | .oneOf s => set backward s
  | .repeated p least most =>
    repeated (p.leastLength?.all (· == 0)) (pattern backward p) least most
  | .group _ p =>
    if backward then pattern backward p
    else do
      draw 1 0
      let forks ← pattern backward p
      leave forks
      draw 1 0
      return false
  | .sequence ps => if backward then backwards ps else forwards ps
  | .choice ps =>
    match literalsOf? ps with
    | some texts => literals backward texts
    | none => do
      alternatives backward 0 ps
      return false

/-- Draws the parts of a sequence from the first on. -/
def forwards : List Pattern → Drawing Forks
  | [] => return false
  | [p] => pattern false p
  | p :: ps => do
    let forks ← pattern false p
    leave forks
    forwards ps

/-- Draws the parts of a sequence from the last on. -/
def backwards : List Pattern → Drawing Forks
  | [] => return false
  | [p] => pattern true p
  | p :: ps => do
    let forks ← backwards ps
    leave forks
    pattern true p

/-- Draws alternatives; the fork before and the place after them come after the second. -/
def alternatives (backward : Bool) : Nat → List Pattern → Drawing Unit
  | _, [] => return
  | done, p :: ps => do
    let forks ← pattern backward p
    if done = 1 then draw 2 0
    leave forks
    leave true
    alternatives backward (done + 1) ps

end

/-- Draws a whole automaton, which may start anywhere unless a text has to start (or, read
backward, to end) with the match. -/
def whole (backward : Bool) (p : Pattern) : Drawing Unit := do
  let anchored := if backward then p.endsWith .textEnd else p.startsWith .textStart
  if anchored then draw 1 0 else draw 3 (arrowBytes + 2 * wayBytes)
  let forks ← pattern backward (if backward then p else .group 0 p)
  leave forks
  draw 1 0

end Draft

/-- Whether automata for a pattern are small enough. -/
def fits (p : Pattern) : Bool :=
  (Draft.whole false p {}).isSome && (Draft.whole true p {}).isSome

end LintRun.Pattern

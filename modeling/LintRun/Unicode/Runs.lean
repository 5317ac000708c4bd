import LintRun.Text.Digits

/-!
# Tables of runs over the code points

A property of characters is kept as the lengths of the runs of code points on which it does
not change, from U+0000 up.  `Runs.ofLabelled` reads runs that each carry a label,
`Runs.ofAlternating` runs that are outside and inside a set by turns.
-/

namespace LintRun.Unicode

/-- The first code points of the runs of a table, each with what holds on its run. -/
structure Runs (α : Type) where
  starts : Array (Nat × α)

namespace Runs

/-- The words of the lines of a table. -/
def words (lines : List String) : List (List Char) :=
  lines.flatMap fun line => (line.toList.splitBy fun a b => a != ' ' && b != ' ').filter
    fun w => w != [' ']

/-- Adds a run of `length` code points. -/
def push {α : Type} (length : Nat) (a : α) : Nat × Array (Nat × α) → Nat × Array (Nat × α)
  | (next, starts) => (next + length, starts.push (next, a))

/-- Runs written as a label and a length each. -/
def ofLabelled (lines : List String) : Runs String :=
  ⟨((words lines).foldl (fun table w =>
    push (numberOf 10 (w.dropWhile isAsciiLetter)) (String.ofList (w.takeWhile isAsciiLetter))
      table) (0, #[])).2⟩

/-- Lengths of runs, the first outside a set, the next inside, and so on; the rest is
outside or inside, whichever comes next. -/
def ofAlternating (lines : List String) : Runs Bool :=
  let (inside, table) := (words lines).foldl (fun (inside, table) w =>
    (!inside, push (numberOf 10 w) inside table)) (false, (0, #[]))
  ⟨(push 0 inside table).2⟩

/-- The place of the last run among `low .. high` that starts at or before `n`. -/
def search {α : Type} (starts : Array (Nat × α)) (n low high : Nat) : Nat :=
  if _h : high ≤ low + 1 then low
  else
    let mid := (low + high) / 2
    match starts[mid]? with
    | some (first, _) =>
      if first ≤ n then search starts n mid high else search starts n low mid
    | none => low
termination_by high - low

/-- What holds at a code point. -/
def at? {α : Type} (r : Runs α) (n : Nat) : Option α :=
  r.starts[search r.starts n 0 r.starts.size]?.map (·.2)

/-- The last code point. -/
def lastPoint : Nat := 0x10FFFF

/-- The stretches of the runs on which something holds, as first and last code points. -/
def ranges {α : Type} (r : Runs α) (holds : α → Bool) : List (Nat × Nat) :=
  let starts := r.starts.toList
  let ends := (starts.drop 1).map fun (next, _) => next
  ((starts.zip (ends ++ [lastPoint + 1])).filter fun ((first, a), next) =>
    holds a && first < next).map fun ((first, _), next) => (first, next - 1)

end Runs

/-- What is left of a stretch outside of another one. -/
def cutOne (hole stretch : Nat × Nat) : List (Nat × Nat) :=
  let (first, last) := stretch
  if hole.2 < first || last < hole.1 then [stretch]
  else (if first < hole.1 then [(first, hole.1 - 1)] else []) ++
    (if hole.2 < last then [(hole.2 + 1, last)] else [])

/-- What is left of a stretch outside of some others. -/
def cutOut (holes : List (Nat × Nat)) (stretch : Nat × Nat) : List (Nat × Nat) :=
  holes.foldl (fun pieces hole => pieces.flatMap (cutOne hole)) [stretch]

end LintRun.Unicode

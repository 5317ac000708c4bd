/-
# Cutting a list at separators

`pieces` cuts at every separator and keeps empty pieces; `runs` keeps the non-empty ones,
which are the maximal separator-free runs.  Paths are cut at slashes, tool output at line
ends.
-/
namespace LintRun

/-- The stretches between separators, empty ones included; always at least one. -/
def pieces {α : Type} (isBreak : α → Bool) : List α → List (List α)
  | [] => [[]]
  | c :: cs =>
    match isBreak c, pieces isBreak cs with
    | true, ps => [] :: ps
    | false, p :: ps => (c :: p) :: ps
    | false, [] => [[c]]

/-- The non-empty stretches between separators. -/
def runs {α : Type} (isBreak : α → Bool) (cs : List α) : List (List α) :=
  (pieces isBreak cs).filter fun p => !p.isEmpty

/-- Carriage return and line feed, in any mix, end a line. -/
def isLineEnd (c : Char) : Bool := c == '\r' || c == '\n'

/-- The non-empty lines of a text; nothing is trimmed. -/
def textLines (text : String) : List String :=
  (runs isLineEnd text.toList).map String.ofList

end LintRun

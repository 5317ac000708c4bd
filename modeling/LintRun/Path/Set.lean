import LintRun.Order.Ascending
import LintRun.Path.Basic

/-!
# Sets of paths

A set of paths is listed part by part in ascending order, so `a/b` comes before `a-b`.
Paths with the same parts count as one; of several spellings the last one given is kept.

Models `PathSet`, an ordered set of paths; sets are filled by insertion there as well.
-/

namespace LintRun

/-- A finite set of paths in ascending order. -/
abbrev PathSet := Ascending Path.key

namespace PathSet

/-- Whether the set has a path with the parts of `p`. -/
def has (s : PathSet) (p : Path) : Bool := s.hasKey p.key

/-- The paths of both sets. -/
def union (s t : PathSet) : PathSet := s.insertAll t.toList

/-- Every path of a list read from a root directory. -/
def resolveAll (root : Path) (rels : List Path) : PathSet :=
  .ofList (rels.map root.resolve)

theorem has_iff {s : PathSet} {p : Path} : s.has p = true ↔ ∃ q ∈ s, q.parts = p.parts := by
  simp only [has, Ascending.hasKey, List.any_eq_true, decide_eq_true_eq, Path.key_eq_iff]
  rfl

end PathSet

end LintRun

import LintRun.Tree.Walk

/-!
# Screening candidate files

Candidates pass three stages: the blacklist, the ignored subtrees, and the changed files if
only those are wanted.  Every candidate is kept or removed, and what removed it is the first
stage that does not let it pass.

Models `filter` with `Exclusion` and `FilterOutcome`, its `removed_by` and `removal_counts`.  An
ignored root is walked with the test of the category, so only files of the category are looked
for among the candidates.
-/

namespace LintRun

/-- The stage that removes a candidate. -/
inductive Exclusion
  | blacklisted
  | ignoredSubtree
  | notChanged
  deriving DecidableEq, Inhabited

namespace Exclusion

/-- The stages in order. -/
def all : List Exclusion := [.blacklisted, .ignoredSubtree, .notChanged]

/-- The written name of a stage. -/
def name : Exclusion → String
  | .blacklisted => "blacklisted"
  | .ignoredSubtree => "ignored_subtree"
  | .notChanged => "not_changed"

end Exclusion

/-- Removed files with the stage that removed them, in path order. -/
abbrev Removals := Ascending (fun r : Path × Exclusion => r.1.key)

/-- What screening makes of a set of candidates. -/
structure Screened where
  kept : PathSet
  removed : Removals

namespace Screened

/-- How many files a stage removed. -/
def removedBy (s : Screened) (e : Exclusion) : Nat :=
  (s.removed.toList.filter (·.2 = e)).length

/-- The number of files that each stage removed, stages that removed none left out. -/
def counts (s : Screened) : List (Exclusion × Nat) :=
  (Exclusion.all.map fun e => (e, s.removedBy e)).filter (·.2 ≠ 0)

/-- Removes the files that are in a set, in the spelling the set has. -/
def dropListed (e : Exclusion) (s : Screened) (paths : List Path) : Screened :=
  paths.foldl (fun s p =>
    if s.kept.has p then
      { kept := s.kept.filter fun q => q.key != p.key, removed := s.removed.insert (p, e) }
    else s) s

/-- Removes the kept files that do not pass a test. -/
def dropUnless (e : Exclusion) (s : Screened) (test : Path → Bool) : Screened where
  kept := s.kept.filter test
  removed := s.removed.insertAll ((s.kept.toList.filter fun p => !test p).map (·, e))

end Screened

/-- What candidates are screened against. -/
structure Screen where
  blacklist : PathSet
  ignoreRoots : List Path
  owns : Path → Bool
  /-- The changed files, if only those are wanted. -/
  changed : Option PathSet

/-- Screens a set of candidates. -/
def Screen.run (t : Tree) (s : Screen) (candidates : PathSet) : Screened :=
  let fresh : Screened := ⟨candidates, .empty⟩
  let listed := fresh.dropUnless .blacklisted fun p => !s.blacklist.has p
  let outside := listed.dropListed .ignoredSubtree
    ((s.ignoreRoots.filter t.has).flatMap (t.walk s.owns))
  match s.changed with
  | none => outside
  | some changed => outside.dropUnless .notChanged changed.has

end LintRun

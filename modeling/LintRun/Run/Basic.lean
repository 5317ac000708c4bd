import LintRun.Changed.Resolve
import LintRun.Registry.Basic
import LintRun.Run.Lint
import LintRun.Run.Report

/-!
# Runs

A run selects categories, finds the changed files if only those are wanted, and takes the
categories one after another: discovering, filtering, dispatching.  A category that fails
does not stop the others; only an unknown name or unknown changes end a run early.

Models `run` and `run_category` of `RunCoordinator`, with `RunOptions` and `RunError`.
-/

namespace LintRun

/-- What is asked of a run. -/
structure RunOptions where
  /-- Keys or aliases of the categories to run; all if there are none. -/
  categories : List String := []
  changedOnly : Bool := false
  lint : LintOptions := {}
  deriving DecidableEq, Inhabited

/-- What ends a run early. -/
inductive RunError
  | registry (e : RegistryError)
  | changes (e : ChangeError)

/-- The wording of an error. -/
def RunError.message : RunError → String
  | .registry e => e.message
  | .changes e => e.message

/-- What an error goes back to, nearest cause first. -/
def RunError.causes : RunError → List String
  | .registry e => e.causes
  | .changes e => e.causes

section

variable {σ : Type}

/-- The outcome of a category when nothing has changed. -/
def Category.unchanged (c : Category) : Outcome where
  key := c.key
  candidates := 0
  files := []
  excluded := []
  status := .skipped .noChangedFiles

/-- The candidates of a category in a tree. -/
def Category.candidates (c : Category) (t : Tree) : PathSet := t.collect c.suffixes.owns c.roots

/-- What the files of a category are screened against. -/
def Registry.screen (r : Registry) (c : Category) (changed : Option PathSet) : Screen where
  blacklist := r.blacklist
  ignoreRoots := c.ignoreRoots
  owns := c.suffixes.owns
  changed

/-- Finds, screens and lints the files of a category. -/
def Registry.runCategory (r : Registry) (o : LintOptions)
    (changed : Option PathSet) (c : Category) : Action σ Outcome := do
  if changed.any (·.isEmpty) then return c.unchanged
  Action.enter .discovering
  let t ← Action.files
  let candidates := c.candidates t
  Action.enter .filtering
  let screened := (r.screen c changed).run t candidates
  Action.enter .dispatching
  let status ← lint c o screened.kept
  return {
    key := c.key
    candidates := candidates.size
    files := screened.kept.toList
    excluded := screened.counts
    status }

/-- Runs categories one after another. -/
def Registry.runCategories (r : Registry) (o : LintOptions)
    (changed : Option PathSet) : List Category → Action σ (List Outcome)
  | [] => return []
  | c :: cs => do
    let outcome ← r.runCategory o changed c
    let outcomes ← r.runCategories o changed cs
    return outcome :: outcomes

/-- The changed files of a run; `none` if they do not matter. -/
def Registry.changedFor (r : Registry) (o : RunOptions) (selected : List Category) :
    Action σ (Except ChangeError (Option PathSet)) := do
  if o.changedOnly && !selected.isEmpty then
    return (← r.vcs.resolve r.sourceRoot).map some
  else return .ok none

/-- A whole run over the files that there are. -/
def Registry.run (r : Registry) (o : RunOptions) :
    Action σ (Except RunError Report) := do
  Action.enter .selecting
  match r.select o.categories with
  | .error e => return .error (.registry e)
  | .ok selected =>
    match ← r.changedFor o selected with
    | .error e => return .error (.changes e)
    | .ok changed => do
      let outcomes ← r.runCategories o.lint changed selected
      Action.enter .aggregating
      Action.enter .done
      return .ok { outcomes }

end

end LintRun

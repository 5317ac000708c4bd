import LintRun.Proofs.Run.Linting
import LintRun.Proofs.Screening
import LintRun.Run.Basic

/-!
# The order in which a run starts processes

A run starts the command that lists changed files, if only those are wanted and there is a
category to run, and then for each selected category a block: its tool over the files that
survived screening, and at most one fixer (`blocks`).  Where the listing fails, or a name is
unknown, no block is started.

The argument goes from the inside out, and a layer looks at the one below it through one
equation only.

* **The listing.**  `resolve_eq` turns the command into one consultation, so what a run goes by
  is a function of one result (`Registry.changedGiven`), and whether the command is started at
  all depends on the options and on there being a category (`Registry.lead`).
* **One category.**  Its files are the survivors in the tree that the runner shows when it is
  its turn (`files_runCategory`), and its starts are a function of these files and of its
  status (`started_runCategory`).  An empty set of changed files lets it return early; but then
  there are no survivors either, so that the early return needs no exception in any statement
  below (`survivors_of_no_changes`).
* **A row of categories**, by induction on the row.  What carries the induction is that running
  a category leads to the state that its starts lead to (`causal_runCategory`).  So the state
  in which the rest of the row runs can be named without the run: it is the state after a list
  of invocations.  `started_runCategories` puts the blocks one after another, and
  `getElem?_runCategories` says that what a category comes to is what it comes to by itself in
  the state that the blocks before it lead to.
* **A whole run** is the listing and then the row (`run_of_selected`); `completed_run` reads a
  completed one backwards.

No status of an earlier category has any other effect on a later one than by what its processes
did.  Nothing is said here about what the lines on standard error are, nor in which phase a
process is started: see `Console` and `Phases`.
-/

namespace LintRun

variable {σ : Type}

/-! ## 1. The listing of changed files

A run asks for the changed files at most once, before its first category.  The runner and the
state are given to the results of this section as late as possible, so that what is said about
the command alone can be used for every runner. -/

/-- What the reply to a listing command means. -/
def ChangeCommand.changes (c : ChangeCommand) (root : Path) :
    Except StartError Output → Except ChangeError PathSet
  | .error e => .error (.notStarted (c.invocation root).display e)
  | .ok output =>
    if output.succeeded then .ok (changedPaths root output.stdout)
    else .error (.failed (c.invocation root).display output.code (trimBlanks output.stderr))

/-- **A listing** is the output of a command that could be started and did not fail. -/
theorem changes_eq_ok_iff {c : ChangeCommand} {root : Path} {result : Except StartError Output}
    {listed : PathSet} :
    c.changes root result = .ok listed ↔ ∃ output, result = .ok output ∧ output.code = 0 ∧
      changedPaths root output.stdout = listed := by
  cases result with
  | error e =>
    constructor
    · intro h
      cases h
    · rintro ⟨_, ⟨⟩, -⟩
  | ok output =>
    show (if output.succeeded then _ else _ : Except ChangeError PathSet) = _ ↔ _
    by_cases hsucceeded : output.succeeded
    · rw [if_pos hsucceeded]
      rw [Output.succeeded, beq_iff_eq] at hsucceeded
      constructor
      · intro h
        exact ⟨output, rfl, hsucceeded, Except.ok.inj h⟩
      · rintro ⟨_, ⟨⟩, -, rfl⟩
        rfl
    · rw [if_neg hsucceeded]
      rw [Output.succeeded, beq_iff_eq] at hsucceeded
      constructor
      · intro h
        cases h
      · rintro ⟨_, ⟨⟩, hzero, -⟩
        exact absurd hzero hsucceeded

/-- **Finding the changed files is one consultation**: nothing is written, and the reply
decides. -/
theorem resolve_eq (c : ChangeCommand) (root : Path) :
    (c.resolve root : Action σ _) =
      .consult (c.invocation root) (fun _ => []) (c.changes root) := by
  refine congrArg (Action.start _ >>= ·) (funext fun result => ?_)
  cases result with
  | ok output =>
    show (if output.succeeded then _ else _ : Action σ _) = pure (if _ then _ else _)
    split
    · rfl
    · rfl
  | error e => rfl

section Listing

variable (r : Registry) (o : RunOptions) (selected : List Category)

/-- The start of the listing command, if a run over some categories has use for it. -/
def Registry.lead : List Invocation :=
  if o.changedOnly && !selected.isEmpty then [r.vcs.invocation r.sourceRoot] else []

/-- No other process comes before the blocks. -/
theorem eq_of_mem_lead {i : Invocation} (h : i ∈ r.lead o selected) :
    i = r.vcs.invocation r.sourceRoot := by
  unfold Registry.lead at h
  split at h
  · exact List.mem_singleton.mp h
  · exact absurd h List.not_mem_nil

/-- **Finding the changed files has the properties of its steps.** -/
theorem Action.Stepwise.changedFor {P : (α : Type) → Action σ α → Prop} (h : Action.Stepwise P) :
    P _ (r.changedFor o selected) := by
  unfold Registry.changedFor
  split
  · rw [resolve_eq]
    exact h.bind (h.consult ..) fun _ => h.pure _
  · exact h.pure _

/-- Finding the changed files knows no more than the reply to the command. -/
theorem causal_changedFor : (r.changedFor o selected : Action σ _).Causal :=
  Action.stepwise_causal.changedFor r o selected

/-- What is started to find the changed files does not depend on the runner. -/
theorem started_changedFor (runner : Runner σ) (s : σ) :
    ((r.changedFor o selected).run runner s).started = r.lead o selected := by
  unfold Registry.changedFor Registry.lead
  split
  · rw [Action.started_bind, resolve_eq, Action.started_consult]
    rfl
  · rfl

/-- The changed files that a run over some categories goes by, if the listing command
replies a result. -/
def Registry.changedGiven (result : Except StartError Output) :
    Except ChangeError (Option PathSet) :=
  if o.changedOnly && !selected.isEmpty then (r.vcs.changes r.sourceRoot result).map some
  else .ok none

/-- A run goes by the output of a command that could be started and did not fail, if it is to
go by the changed files, and by nothing otherwise. -/
theorem changedGiven_eq_ok_iff {result : Except StartError Output} {changed : Option PathSet} :
    r.changedGiven o selected result = .ok changed ↔
      if o.changedOnly && !selected.isEmpty then
        ∃ output, result = .ok output ∧ output.code = 0 ∧
          some (changedPaths r.sourceRoot output.stdout) = changed
      else none = changed := by
  unfold Registry.changedGiven
  split
  · constructor
    · intro h
      cases hchanges : r.vcs.changes r.sourceRoot result with
      | error e =>
        rw [hchanges] at h
        cases h
      | ok listed =>
        rw [hchanges] at h
        obtain ⟨output, hresult, hcode, rfl⟩ := changes_eq_ok_iff.mp hchanges
        exact ⟨output, hresult, hcode, Except.ok.inj h⟩
    · rintro ⟨output, hresult, hcode, rfl⟩
      rw [changes_eq_ok_iff.mpr ⟨output, hresult, hcode, rfl⟩]
      rfl
  · exact ⟨Except.ok.inj, fun h => congrArg _ h⟩

/-- What a run goes by is read off one reply.  The reply is looked up even where the command is
not started; then it does not matter. -/
theorem value_changedFor (runner : Runner σ) (s : σ) :
    ((r.changedFor o selected).run runner s).value =
      r.changedGiven o selected (runner.answer (r.vcs.invocation r.sourceRoot) s).1.result := by
  unfold Registry.changedFor Registry.changedGiven
  split
  · rw [resolve_eq]
    rfl
  · rfl

end Listing

/-! ## 2. One category

The early return on an empty set of changed files is the one branch in which a category starts
nothing and does not even look at the files.  `Registry.examine` is a category without it. -/

section OneCategory

variable (r : Registry) (o : LintOptions) (changed : Option PathSet) (c : Category)

/-- The files of a category in a tree that survive screening. -/
def Registry.survivors (t : Tree) : List Path :=
  ((r.screen c changed).run t (c.candidates t)).kept.toList

/-- Survivors stand in the order of paths, each once. -/
theorem pairwise_survivors (t : Tree) :
    (r.survivors changed c t).Pairwise fun p q => p.key < q.key :=
  ((r.screen c changed).run t (c.candidates t)).kept.ascending

/-- A survivor is a candidate on which screening has nothing to say. -/
theorem mem_survivors_iff {t : Tree} {p : Path} :
    p ∈ r.survivors changed c t ↔
      p ∈ c.candidates t ∧ (r.screen c changed).verdict t p = none :=
  (Screen.run_accounts fun _ hp => Tree.isNormal_of_mem_collect hp).kept p

/-- **Nothing survives where nothing has changed**, so that returning early loses no file. -/
theorem survivors_of_no_changes (h : changed.any (·.isEmpty) = true) (t : Tree) :
    r.survivors changed c t = [] := by
  obtain ⟨listed, hlisted, hempty⟩ := (Option.any_eq_true _ _).mp h
  rw [Ascending.isEmpty_iff] at hempty
  refine List.eq_nil_iff_forall_not_mem.mpr fun p hp => ?_
  obtain ⟨-, -, hkept⟩ := Screen.verdict_eq_none_iff.mp
    ((mem_survivors_iff r changed c).mp hp).2
  obtain ⟨q, hq, -⟩ := PathSet.has_iff.mp (hkept listed hlisted)
  rw [hempty] at hq
  exact Ascending.not_mem_empty hq

/-- Finds, screens and lints the files of a category, also where nothing has changed. -/
def Registry.examine : Action σ Outcome := do
  Action.enter .discovering
  let t ← Action.files
  Action.enter .filtering
  let screened := (r.screen c changed).run t (c.candidates t)
  Action.enter .dispatching
  let status ← lint c o screened.kept
  return {
    key := c.key
    candidates := (c.candidates t).size
    files := screened.kept.toList
    excluded := screened.counts
    status }

/-- A category is examined unless it is known that nothing has changed. -/
theorem runCategory_eq : (r.runCategory o changed c : Action σ Outcome) =
    if changed.any (·.isEmpty) then pure c.unchanged else r.examine o changed c := rfl

/-- A category knows the tree that it is shown and the results of its own processes. -/
theorem causal_runCategory : (r.runCategory o changed c : Action σ Outcome).Causal :=
  .ite (.pure _) <| .bind (.enter _) fun _ => .bind .files fun _ => .bind (.enter _) fun _ =>
    .bind (.enter _) fun _ => .bind (Action.stepwise_causal.lint c o _) fun _ => .pure _

variable (runner : Runner σ) (s : σ)

/-- An outcome carries the key of its category, also if nothing has changed. -/
theorem key_runCategory : ((r.runCategory o changed c).run runner s).value.key = c.key := by
  unfold Registry.runCategory
  split
  · rfl
  · rfl

/-- **The files of an outcome** are the survivors in the tree that the runner shows at the
start of the category, whether or not it returns early. -/
theorem files_runCategory :
    ((r.runCategory o changed c).run runner s).value.files =
      r.survivors changed c (runner.files s) := by
  unfold Registry.runCategory
  split
  · rename_i hnone
    exact (survivors_of_no_changes r changed c hnone _).symm
  · rfl

/-- A category without files is skipped. -/
theorem skipped_runCategory (h : ((r.runCategory o changed c).run runner s).value.files = []) :
    ∃ reason, ((r.runCategory o changed c).run runner s).value.status = .skipped reason := by
  unfold Registry.runCategory at h ⊢
  split
  · exact ⟨_, rfl⟩
  · rename_i hsome
    rw [if_neg hsome] at h
    exact ⟨_, lint_of_no_files c o h runner s⟩

/-- What an examined category starts is told by its own outcome. -/
theorem started_examine :
    ((r.examine o changed c).run runner s).started =
      c.starts o ((r.examine o changed c).run runner s).value.files
        ((r.examine o changed c).run runner s).value.status := by
  show ((lint c o _ >>= fun _ => pure _).run runner s).started = _
  rw [Action.started_bind, Action.started_pure, List.append_nil, started_lint]
  rfl

/-- **The block of a category.**  The tool and the fixer are started over the files of the
outcome, as its status calls for.  An early return has no files and a status that calls for no
fixer, so it fits the same equation. -/
theorem started_runCategory :
    ((r.runCategory o changed c).run runner s).started =
      c.starts o ((r.runCategory o changed c).run runner s).value.files
        ((r.runCategory o changed c).run runner s).value.status := by
  rw [runCategory_eq]
  split
  · show [] = c.starts o [] (.skipped .noChangedFiles)
    rw [Category.starts, c.toolStarts_nil, c.fixerStarts_of_not_isFixable o rfl]
    rfl
  · exact started_examine ..

/-- The status of a category is sound for the code of its failure, as it is for linting alone.
-/
theorem exits_runCategory :
    ((r.runCategory o changed c).run runner s).value.status.Exits
      (c.failureCode o.fix ((r.runCategory o changed c).run runner s).value.files runner s) := by
  unfold Registry.runCategory
  split
  · exact .inl ⟨rfl, rfl⟩
  · exact exits_lint c o _ runner s

end OneCategory

/-! ## 3. Categories one after another

The induction is on the row of categories, with the state generalized: each step moves on to
the state after its block. -/

/-- The starts of each category, by what came of it. -/
def blocks (o : LintOptions) (cs : List Category) (xs : List Outcome) : List (List Invocation) :=
  List.zipWith (fun c x => c.starts o x.files x.status) cs xs

/-- Every start in a block is one of a tool or a fixer of the row, over files of an outcome. -/
theorem startsOver_of_mem_blocks {o : LintOptions} {cs : List Category} {xs : List Outcome}
    {i : Invocation} (h : i ∈ (blocks o cs xs).flatten) :
    ∃ c ∈ cs, ∃ x ∈ xs, ∃ given ⊆ x.files, c.StartsOver o.fix given i := by
  obtain ⟨row, hrow, hi⟩ := List.mem_flatten.mp h
  rw [blocks, ← List.map_uncurry_zip_eq_zipWith] at hrow
  obtain ⟨⟨c, x⟩, hmem, rfl⟩ := List.mem_map.mp hrow
  obtain ⟨hc, hx⟩ := List.of_mem_zip hmem
  exact ⟨c, hc, x, hx, c.startsOver_of_mem_starts o hi⟩

/-- The listing command is no tool and no fixer, as its output is wanted. -/
theorem ne_listing_of_startsOver (r : Registry) {c : Category} {fix : Bool} {files : List Path}
    {i : Invocation} (h : c.StartsOver fix files i) : i ≠ r.vcs.invocation r.sourceRoot := by
  rintro rfl
  cases h.capturesOutput

section Categories

variable (r : Registry) (o : LintOptions) (changed : Option PathSet)

/-- A row of categories is causal since each of them is. -/
theorem causal_runCategories (cs : List Category) :
    (r.runCategories o changed cs : Action σ _).Causal := by
  induction cs with
  | nil => exact .pure _
  | cons c cs ih =>
    exact .bind (causal_runCategory r o changed c) fun _ => .bind ih fun _ => .pure _

variable (runner : Runner σ) (s : σ)

/-- **One step**: the outcome of a category, and the others in the state it leads to. -/
theorem value_runCategories_cons (c : Category) (cs : List Category) :
    ((r.runCategories o changed (c :: cs)).run runner s).value =
      ((r.runCategory o changed c).run runner s).value ::
        ((r.runCategories o changed cs).run runner
          (runner.after s ((r.runCategory o changed c).run runner s).started)).value := by
  rw [← (causal_runCategory r o changed c).state_eq]
  rfl

/-- There is one outcome for each category, in the same order. -/
theorem keys_runCategories (cs : List Category) :
    ((r.runCategories o changed cs).run runner s).value.map Outcome.key =
      cs.map Category.key := by
  induction cs generalizing s with
  | nil => rfl
  | cons c cs ih =>
    rw [value_runCategories_cons, List.map_cons, ih, key_runCategory]
    rfl

/-- So positions in the row of categories are positions in the row of outcomes. -/
theorem length_runCategories (cs : List Category) :
    ((r.runCategories o changed cs).run runner s).value.length = cs.length := by
  have hkeys := congrArg List.length (keys_runCategories r o changed runner s cs)
  rw [List.length_map, List.length_map] at hkeys
  exact hkeys

/-- **The blocks stand one after another.**  There is no start between two blocks and none left
out, whatever the statuses are. -/
theorem started_runCategories (cs : List Category) :
    ((r.runCategories o changed cs).run runner s).started =
      (blocks o cs ((r.runCategories o changed cs).run runner s).value).flatten := by
  induction cs generalizing s with
  | nil => rfl
  | cons c cs ih =>
    rw [value_runCategories_cons, blocks, List.zipWith_cons_cons, List.flatten_cons,
      ← started_runCategory, ← blocks, ← ih, ← (causal_runCategory r o changed c).state_eq]
    rw [Registry.runCategories, Action.started_bind, Action.started_bind, Action.started_pure,
      List.append_nil]

/-- **Each category by itself**: what comes of it is what comes of it in the state that the
blocks before it lead to. -/
theorem getElem?_runCategories {cs : List Category} {k : Nat} {c : Category} {x : Outcome}
    (hc : cs[k]? = some c)
    (hx : ((r.runCategories o changed cs).run runner s).value[k]? = some x) :
    x = ((r.runCategory o changed c).run runner (runner.after s ((blocks o cs
      ((r.runCategories o changed cs).run runner s).value).take k).flatten)).value := by
  induction cs generalizing s k with
  | nil => cases hc
  | cons c' cs ih =>
    rw [value_runCategories_cons] at hx ⊢
    cases k with
    | zero =>
      cases hc
      cases hx
      rfl
    | succ k =>
      -- The first block is behind us: the others are counted from the state it leads to.
      rw [blocks, List.zipWith_cons_cons, List.take_succ_cons, List.flatten_cons,
        Runner.after_append, ← started_runCategory]
      exact ih _ hc hx

end Categories

/-! ## 4. Whole runs

A run has three ways to end: an unknown name, a listing that cannot be had, and a report.
There is one lemma for each, by what the run goes by, and `completed_run` says that a report
comes from the third only. -/

section Runs

variable (r : Registry) (o : RunOptions)

/-- The rest of a run over some categories, by what it goes by. -/
def Registry.runGiven (selected : List Category) :
    Except ChangeError (Option PathSet) → Action σ (Except RunError Report)
  | .error e => return .error (.changes e)
  | .ok changed => do
    let outcomes ← r.runCategories o.lint changed selected
    Action.enter .aggregating
    Action.enter .done
    return .ok { outcomes }

/-- A run over selected categories is: enter the first phase, find the changed files, do the
rest. -/
theorem run_eq {selected : List Category} (h : r.select o.categories = .ok selected) :
    (r.run o : Action σ _) = Action.enter .selecting >>= fun _ =>
      r.changedFor o selected >>= r.runGiven o selected := by
  unfold Registry.run
  rw [h]
  refine congrArg (Action.enter _ >>= ·) (funext fun _ => ?_)
  refine congrArg (r.changedFor o selected >>= ·) (funext fun given => ?_)
  cases given with
  | error e => rfl
  | ok changed => rfl

/-- The rest of a run is causal, an early end included. -/
theorem causal_runGiven (selected : List Category) (given : Except ChangeError (Option PathSet)) :
    (r.runGiven o selected given : Action σ _).Causal := by
  cases given with
  | error e => exact .pure _
  | ok changed =>
    exact .bind (causal_runCategories r o.lint changed selected) fun _ =>
      .bind (.enter _) fun _ => .bind (.enter _) fun _ => .pure _

/-- Entering the last phases starts nothing. -/
theorem started_runGiven (selected : List Category) (changed : Option PathSet)
    (runner : Runner σ) (s : σ) :
    ((r.runGiven o selected (.ok changed)).run runner s).started =
      (blocks o.lint selected
        ((r.runCategories o.lint changed selected).run runner s).value).flatten := by
  rw [← started_runCategories, Registry.runGiven, Action.started_bind]
  exact List.append_nil _

/-- **A whole run is causal**, so that its end state is the state after what it started. -/
theorem causal_run : (r.run o : Action σ _).Causal := by
  cases hselect : r.select o.categories with
  | error e =>
    unfold Registry.run
    rw [hselect]
    exact .bind (.enter _) fun _ => .pure _
  | ok selected =>
    rw [run_eq r o hselect]
    exact .bind (.enter _) fun _ => .bind (causal_changedFor r o selected) fun given =>
      causal_runGiven r o selected given

/-- The reply to the listing command as the first process of a run. -/
def Registry.listing (runner : Runner σ) (s : σ) : Except StartError Output :=
  (runner.answer (r.vcs.invocation r.sourceRoot) s).1.result

/-- A run that goes by the changed files cannot know them: the listing command cannot be
started or fails. -/
def Registry.Unlisted (selected : List Category) (runner : Runner σ) (s : σ) : Prop :=
  o.changedOnly = true ∧ selected ≠ [] ∧
    ∀ output, r.listing runner s = .ok output → output.code ≠ 0

/-- The condition of the program in words: changed files only, and some category. -/
theorem asks_iff {selected : List Category} :
    (o.changedOnly && !selected.isEmpty) = true ↔ o.changedOnly = true ∧ selected ≠ [] := by
  simp

/-- A run that cannot know the changed files is one that has nothing to go by. -/
theorem unlisted_iff {selected : List Category} {runner : Runner σ} {s : σ} :
    r.Unlisted o selected runner s ↔
      ∀ changed, r.changedGiven o selected (r.listing runner s) ≠ .ok changed := by
  simp only [Registry.Unlisted, ne_eq, changedGiven_eq_ok_iff]
  split
  · rename_i hasked
    constructor
    · rintro ⟨-, -, hfailed⟩ changed ⟨output, hlisted, hzero, -⟩
      exact hfailed output hlisted hzero
    · intro hfailed
      obtain ⟨honly, hselected⟩ := (asks_iff o).mp hasked
      exact ⟨honly, hselected, fun output hlisted hzero =>
        hfailed _ ⟨output, hlisted, hzero, rfl⟩⟩
  · rename_i hasked
    constructor
    · rintro ⟨honly, hselected, -⟩
      exact absurd ((asks_iff o).mpr ⟨honly, hselected⟩) hasked
    · intro hfailed
      exact absurd rfl (hfailed none)

/-- Such a run has asked for them. -/
theorem lead_of_unlisted {selected : List Category} {runner : Runner σ} {s : σ}
    (h : r.Unlisted o selected runner s) :
    r.lead o selected = [r.vcs.invocation r.sourceRoot] := by
  obtain ⟨honly, hselected, -⟩ := h
  exact if_pos ((asks_iff o).mpr ⟨honly, hselected⟩)

variable {r o} {selected : List Category} {runner : Runner σ} {s : σ}

/-- **An unknown name ends a run before anything is started.** -/
theorem run_of_unknown {e : RegistryError} (h : r.select o.categories = .error e) :
    ((r.run o).run runner s).started = [] ∧
      ((r.run o).run runner s).value = .error (.registry e) := by
  unfold Registry.run
  rw [h]
  exact ⟨rfl, rfl⟩

/-- What a run over some categories comes to, by what it goes by. -/
theorem run_of_selected (runner : Runner σ) (s : σ) (h : r.select o.categories = .ok selected) :
    ((r.run o).run runner s).started = r.lead o selected ++
        ((r.runGiven o selected (r.changedGiven o selected (r.listing runner s))).run runner
          (runner.after s (r.lead o selected))).started ∧
      ((r.run o).run runner s).value =
        ((r.runGiven o selected (r.changedGiven o selected (r.listing runner s))).run runner
          (runner.after s (r.lead o selected))).value := by
  have hvalue : ((r.changedFor o selected).run runner s).value =
      r.changedGiven o selected (r.listing runner s) := value_changedFor r o selected runner s
  have hstarted := started_changedFor r o selected runner s
  rw [run_eq r o h, Action.started_bind, ← hvalue, ← hstarted,
    ← (causal_changedFor r o selected).state_eq]
  exact ⟨Action.started_bind .., rfl⟩

/-- **A listing that cannot be had ends a run** before any tool is started. -/
theorem run_of_no_listing {e : ChangeError} (h : r.select o.categories = .ok selected)
    (hgiven : r.changedGiven o selected (r.listing runner s) = .error e) :
    ((r.run o).run runner s).started = r.lead o selected ∧
      ((r.run o).run runner s).value = .error (.changes e) := by
  obtain ⟨hstarted, hvalue⟩ := run_of_selected runner s h
  rw [hgiven] at hstarted hvalue
  exact ⟨hstarted.trans (List.append_nil _), hvalue⟩

/-- A run with what it goes by: the outcomes are those of its categories one after another. -/
theorem run_of_given {changed : Option PathSet} (h : r.select o.categories = .ok selected)
    (hgiven : r.changedGiven o selected (r.listing runner s) = .ok changed) :
    ((r.run o).run runner s).started = r.lead o selected ++
        (blocks o.lint selected ((r.runCategories o.lint changed selected).run runner
          (runner.after s (r.lead o selected))).value).flatten ∧
      ((r.run o).run runner s).value = .ok
        ⟨((r.runCategories o.lint changed selected).run runner
          (runner.after s (r.lead o selected))).value⟩ := by
  obtain ⟨hstarted, hvalue⟩ := run_of_selected runner s h
  rw [hgiven] at hstarted hvalue
  rw [started_runGiven] at hstarted
  exact ⟨hstarted, hvalue⟩

/-- **What a completed run is.** -/
theorem completed_run {report : Report} (h : ((r.run o).run runner s).value = .ok report) :
    ∃ selected changed, r.select o.categories = .ok selected ∧
      r.changedGiven o selected (r.listing runner s) = .ok changed ∧
      ((r.runCategories o.lint changed selected).run runner
        (runner.after s (r.lead o selected))).value = report.outcomes ∧
      ((r.run o).run runner s).started =
        r.lead o selected ++ (blocks o.lint selected report.outcomes).flatten := by
  cases hselect : r.select o.categories with
  | error e =>
    rw [(run_of_unknown hselect).2] at h
    cases h
  | ok selected =>
    cases hgiven : r.changedGiven o selected (r.listing runner s) with
    | error e =>
      rw [(run_of_no_listing hselect hgiven).2] at h
      cases h
    | ok changed =>
      obtain ⟨hstarted, hvalue⟩ := run_of_given hselect hgiven
      cases hvalue.symm.trans h
      exact ⟨selected, changed, rfl, hgiven, rfl, hstarted⟩

/-- The outcome of a category in a completed run. -/
theorem outcome_eq {changed : Option PathSet} {xs : List Outcome}
    (hxs : ((r.runCategories o.lint changed selected).run runner
      (runner.after s (r.lead o selected))).value = xs)
    {k : Nat} {c : Category} {x : Outcome} (hc : selected[k]? = some c) (hx : xs[k]? = some x) :
    x = ((r.runCategory o.lint changed c).run runner (runner.after s
      (r.lead o selected ++ ((blocks o.lint selected xs).take k).flatten))).value := by
  subst hxs
  rw [Runner.after_append]
  exact getElem?_runCategories r o.lint changed runner _ hc hx

/-- The files of a category in a completed run are the survivors in the tree there then is. -/
theorem files_outcome {changed : Option PathSet} {xs : List Outcome}
    (hxs : ((r.runCategories o.lint changed selected).run runner
      (runner.after s (r.lead o selected))).value = xs)
    {k : Nat} {c : Category} {x : Outcome} (hc : selected[k]? = some c) (hx : xs[k]? = some x) :
    x.files = r.survivors changed c (runner.files (runner.after s
      (r.lead o selected ++ ((blocks o.lint selected xs).take k).flatten))) :=
  (congrArg Outcome.files (outcome_eq hxs hc hx)).trans (files_runCategory ..)

/-- The block of a category without files is empty. -/
theorem starts_of_no_files {changed : Option PathSet} {xs : List Outcome}
    (hxs : ((r.runCategories o.lint changed selected).run runner
      (runner.after s (r.lead o selected))).value = xs)
    {k : Nat} {c : Category} {x : Outcome} (hc : selected[k]? = some c) (hx : xs[k]? = some x)
    (hnone : x.files = []) : c.starts o.lint x.files x.status = [] := by
  have hxeq := outcome_eq hxs hc hx
  obtain ⟨reason, hstatus⟩ := skipped_runCategory _ _ _ _ _ _
    ((congrArg Outcome.files hxeq).symm.trans hnone)
  rw [Category.starts, hnone, hxeq, hstatus, c.toolStarts_nil,
    c.fixerStarts_of_not_isFixable _ rfl, List.nil_append]

/-- Each outcome of a completed run has its category. -/
theorem category_of_outcome {changed : Option PathSet} {xs : List Outcome}
    (hxs : ((r.runCategories o.lint changed selected).run runner
      (runner.after s (r.lead o selected))).value = xs)
    {k : Nat} {x : Outcome} (hx : xs[k]? = some x) : ∃ c, selected[k]? = some c := by
  have hlength : xs.length = selected.length := hxs ▸ length_runCategories ..
  obtain ⟨hk, -⟩ := List.getElem?_eq_some_iff.mp hx
  exact ⟨_, List.getElem?_eq_getElem (hlength ▸ hk)⟩

end Runs

/-! ## 5. The protocol

What remains is to put the pieces together for each position of the row. -/

/-- Selecting leaves out categories and changes no order. -/
theorem select_sublist {r : Registry} {names : List String} {selected : List Category}
    (h : r.select names = .ok selected) : selected.Sublist r.categories := by
  unfold Registry.select at h
  split at h
  · cases h
    exact .refl _
  · split at h
    · cases h
    · cases h
      exact List.filter_sublist

/-- The block at a position is made of the category and the outcome at that position. -/
theorem getElem?_blocks {o : LintOptions} {cs : List Category} {xs : List Outcome} {k : Nat}
    {c : Category} {x : Outcome} (hc : cs[k]? = some c) (hx : xs[k]? = some x) :
    (blocks o cs xs)[k]? = some (c.starts o x.files x.status) := by
  rw [blocks, List.getElem?_zipWith, hc, hx]

/-- **The protocol of a run.**  Nothing is started for an unknown name, and the listing
command alone if it gives no listing.  Otherwise there is an outcome for each selected
category, and the starts are the listing, if it is asked for, and then a block for each
category: its tool over the files that survive screening in the tree there then is, in order,
and at most one fixer; nothing if there are no files. -/
theorem run_protocol (r : Registry) (o : RunOptions) (runner : Runner σ) (s : σ) :
    (∀ e, r.select o.categories = .error e →
      ((r.run o).run runner s).started = [] ∧
        ((r.run o).run runner s).value = .error (.registry e)) ∧
    ∀ selected, r.select o.categories = .ok selected →
      selected.Sublist r.categories ∧
      (r.Unlisted o selected runner s →
        ((r.run o).run runner s).started = [r.vcs.invocation r.sourceRoot] ∧
          ∃ e, ((r.run o).run runner s).value = .error (.changes e)) ∧
      (¬r.Unlisted o selected runner s →
        ∃ changed report, r.changedGiven o selected (r.listing runner s) = .ok changed ∧
          ((r.run o).run runner s).value = .ok report ∧
          report.outcomes.map Outcome.key = selected.map Category.key ∧
          ((r.run o).run runner s).started =
            r.lead o selected ++ (blocks o.lint selected report.outcomes).flatten ∧
          ∀ k c x, selected[k]? = some c → report.outcomes[k]? = some x →
            x.files = r.survivors changed c (runner.files (runner.after s (r.lead o selected ++
              ((blocks o.lint selected report.outcomes).take k).flatten))) ∧
            (x.files.Pairwise fun p q => p.key < q.key) ∧
            (blocks o.lint selected report.outcomes)[k]? = some
              (c.toolStarts o.lint.fix x.files ++ c.fixerStarts o.lint x.files x.status) ∧
            (c.fixerStarts o.lint x.files x.status).length ≤ 1 ∧
            (x.files = [] ∨ changed = some .empty →
              (blocks o.lint selected report.outcomes)[k]? = some [])) := by
  refine ⟨fun e he => run_of_unknown he, fun selected hselect => ⟨select_sublist hselect, ?_, ?_⟩⟩
  · intro hunlisted
    cases hgiven : r.changedGiven o selected (r.listing runner s) with
    | error e =>
      obtain ⟨hstarted, hvalue⟩ := run_of_no_listing hselect hgiven
      exact ⟨hstarted.trans (lead_of_unlisted r o hunlisted), e, hvalue⟩
    | ok changed => exact absurd hgiven ((unlisted_iff r o).mp hunlisted changed)
  · intro hlisted
    cases hgiven : r.changedGiven o selected (r.listing runner s) with
    | error e =>
      refine absurd ((unlisted_iff r o).mpr fun changed hok => ?_) hlisted
      cases hgiven.symm.trans hok
    | ok changed =>
      obtain ⟨hstarted, hvalue⟩ := run_of_given hselect hgiven
      refine ⟨changed, _, rfl, hvalue, keys_runCategories .., hstarted, ?_⟩
      intro k c x hc hx
      have hfiles := files_outcome rfl hc hx
      refine ⟨hfiles, hfiles ▸ pairwise_survivors .., getElem?_blocks hc hx,
        c.length_fixerStarts_le .., fun hnone => ?_⟩
      rw [getElem?_blocks hc hx, starts_of_no_files rfl hc hx]
      obtain hnone | hnone := hnone
      · exact hnone
      · rw [hfiles]
        exact survivors_of_no_changes r changed c (hnone ▸ rfl) _

namespace Example

/-- Two scripts and a module. -/
def sources : Tree where
  root := .directory (Utf8.encode "src")
    (.file (Utf8.encode "a.js") {} <| .file (Utf8.encode "b.js") {} <|
      .file (Utf8.encode "c.py") {} .empty)
    .empty

/-- The category of the files with an extension. -/
def category (ext : String) (mode : Mode) (fixer : Option Tool) : Category where
  key := ext
  aliases := []
  description := ""
  roots := [.ofString "/src"]
  ignoreRoots := []
  suffixes := .ofExtensions [ext]
  noise := .none
  mode
  tool := { program := ext ++ "lint" }
  fixer

/-- Scripts one by one, texts and modules at once, and modules have a fixer. -/
def registry : Registry where
  sourceRoot := .ofString "/src"
  categories := [category "js" .perFile none, category "txt" .batch none,
    category "py" .batch (some { program := "pyfix" })]
  blacklist := .empty
  vcs := .standard

/-- Everything has changed and is fixed. -/
def options : RunOptions := { changedOnly := true, lint := { fix := true } }

/-- The first script cannot be linted, and the module is faulty. -/
def answers : Script :=
  [{ program := some "git", output := { stdout := "a.js\nb.js\nc.py\n" } },
    { program := some "jslint", times := some 1, notFound := true },
    { program := some "pylint", output := { code := 3 } }]

/-- The listing, then two starts of the tool for the scripts (the first cannot be carried out,
the second is), nothing for the texts, of which there are none, and the tool and the fixer for
the module. -/
theorem run_protocol_sources :
    registry.select options.categories = .ok registry.categories ∧
      ¬registry.Unlisted options registry.categories (scripted sources) answers ∧
      ∃ report, ((registry.run options).run (scripted sources) answers).value = .ok report ∧
        ((registry.run options).run (scripted sources) answers).started =
          registry.lead options registry.categories ++
            (blocks options.lint registry.categories report.outcomes).flatten ∧
        ((registry.run options).run (scripted sources) answers).started.map (·.program) =
          ["git", "jslint", "jslint", "pylint", "pyfix"] := by
  have hlisted : ¬registry.Unlisted options registry.categories (scripted sources) answers := by
    rintro ⟨-, -, hfailed⟩
    exact hfailed _ rfl rfl
  obtain ⟨-, -, hprotocol⟩ := (run_protocol registry options (scripted sources) answers).2 _ rfl
  obtain ⟨_, report, -, hvalue, -, hstarted, -⟩ := hprotocol hlisted
  exact ⟨rfl, hlisted, report, hvalue, hstarted, by decide⟩

end Example

end LintRun

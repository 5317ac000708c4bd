import LintRun.Proofs.Run.Document
import LintRun.Proofs.Run.Phases
import LintRun.Proofs.Run.Restriction

/-!
# A report accounts for every file

Linting one file after another finds at most one problem with each (`sublist_lintFiles`), so
that what it reports is a selection of the files, in their order.  With the numbers of
screening this makes every outcome account for its candidates (`Outcome.Accounts`): each was
handed on or excluded once, there is a status of linting exactly if there were files, and the
problems are problems of these files.

`accounting_law` says so of every outcome of a run, and that the document of the report tells
the same numbers.

The accounts of an outcome are fields of a structure, and an outcome comes about in one of two
ways.  Examining gives it the numbers of screening, whose sum is the number of candidates
(`Screen.size_run`), and a status of linting over the survivors.  If nothing has changed it has
no files, no candidates and no numbers, and accounts for nothing; then its numbers are not
those of screening the tree, and the law makes this one exception.
-/

namespace LintRun

variable {σ : Type}

/-! ## 1. The problems of a category

Files are linted in the order of paths, so a sublist of them is ascending as well and names no
file twice. -/

section Problems

variable (c : Category) (o : LintOptions) (fix : Bool) (runner : Runner σ) (s : σ)

/-- **One problem for a file at most**, in the order of the files. -/
theorem sublist_lintFiles (files : List Path) :
    (((lintFiles c fix files).run runner s).value.map Prod.fst).Sublist files := by
  induction files generalizing s with
  | nil => exact .slnil
  | cons file files ih =>
    have hrest := ih ((lintFile c fix file).run runner s).state
    simp only [lintFiles, Action.run_bind, Action.run_pure, List.map_append]
    cases ((lintFile c fix file).run runner s).value with
    | none => exact hrest.cons file
    | some problem => exact hrest.cons_cons file

/-- A status of the tool with problems has at least one, and only of files it was given. -/
theorem problems_runTool {files : List Path} {problems : List (Path × Problem)}
    (h : ((runTool c fix files).run runner s).value = .failed (.files problems)) :
    problems ≠ [] ∧ (problems.map Prod.fst).Sublist files := by
  unfold runTool at h
  cases hmode : c.mode with
  | batch =>
    rw [hmode] at h
    dsimp only at h
    rw [lintAll_eq, Action.value_consult] at h
    cases hresult : (runner.answer (c.tool.invocation fix files) s).1.result with
    | error e =>
      rw [hresult] at h
      cases h
    | ok output =>
      rw [hresult, batchStatus] at h
      split at h
      · cases h
      · cases h
  | perFile =>
    rw [hmode] at h
    have hsub := sublist_lintFiles c fix runner s files
    simp only [Action.run_bind, Action.run_pure] at h
    split at h
    · cases h
    · rename_i hne
      cases h
      exact ⟨fun hnil => hne (List.isEmpty_iff.mpr hnil), hsub⟩

/-- Where there are files the status of a category is that of its tool. -/
theorem value_lint {files : PathSet} (h : files.toList ≠ []) :
    ((lint c o files).run runner s).value =
      ((runTool c o.fix files.toList).run runner s).value := by
  have hsome : files.toList.isEmpty = false := by
    rw [Bool.eq_false_iff, ne_eq, List.isEmpty_iff]
    exact h
  rw [lint_eq]
  show ((c.lintQuietly o files.toList).run runner s).value = _
  rw [Category.lintQuietly, hsome]
  rfl

end Problems

/-! ## 2. The accounts of an outcome

Both ways in which an outcome comes about satisfy all fields, and nothing else is needed to
know of them. -/

/-- **An outcome accounts for its candidates**: each was handed on or excluded once, the
status says whether there were files, and problems are problems of these files. -/
structure Outcome.Accounts (x : Outcome) : Prop where
  candidates : x.candidates = x.files.length + (x.excluded.map Prod.snd).sum
  excluded : ∀ entry ∈ x.excluded, entry.2 ≠ 0
  stages : x.excluded.Pairwise fun a b => a.1.rank < b.1.rank
  clean : x.status = .clean → x.files ≠ []
  failed : ∀ failure, x.status = .failed failure → x.files ≠ []
  skipped : ∀ reason, x.status = .skipped reason → x.files = []
  problems : ∀ problems, x.status = .failed (.files problems) →
    problems ≠ [] ∧ (problems.map Prod.fst).Pairwise (fun p q => p.key < q.key) ∧
      ∀ p ∈ problems.map Prod.fst, p ∈ x.files

/-- Problems are listed exactly if files were linted one by one and some have problems. -/
theorem Outcome.Accounts.problems_iff {x : Outcome} (h : x.Accounts) :
    x.status.problems ≠ [] ↔ ∃ problems, x.status = .failed (.files problems) := by
  constructor
  · intro hproblems
    unfold Status.problems at hproblems
    split at hproblems
    · rename_i problems hstatus
      exact ⟨problems, hstatus⟩
    · exact absurd rfl hproblems
  · rintro ⟨problems, hstatus⟩
    rw [hstatus]
    exact (h.problems problems hstatus).1

section Outcomes

variable (r : Registry) (o : LintOptions) (changed : Option PathSet) (c : Category)
  (runner : Runner σ) (s : σ)

/-- A category that is not examined has no candidates to account for. -/
theorem accounts_unchanged : c.unchanged.Accounts where
  candidates := rfl
  excluded := nofun
  stages := .nil
  clean := nofun
  failed := nofun
  skipped := fun _ _ => rfl
  problems := nofun

/-- Linting skips a category exactly if there are no files. -/
theorem skipped_lint_iff {files : PathSet} :
    (∃ reason, ((lint c o files).run runner s).value = .skipped reason) ↔ files.toList = [] := by
  constructor
  · rintro ⟨reason, hskipped⟩
    by_contra hsome
    rw [value_lint c o runner s hsome] at hskipped
    exact not_skipped_runTool c o.fix files.toList reason runner s hskipped
  · intro hnone
    exact ⟨_, lint_of_no_files c o hnone runner s⟩

/-- **An outcome of examining** accounts for the candidates. -/
theorem accounts_examine : ((r.examine o changed c).run runner s).value.Accounts := by
  generalize hx : ((r.examine o changed c).run runner s).value = x
  have hfiles : x.files = r.survivors changed c (runner.files s) := by
    rw [← hx]
    rfl
  have hstatus : x.status = ((lint c o ((r.screen c changed).run (runner.files s)
      (c.candidates (runner.files s))).kept).run runner s).value := by
    rw [← hx]
    rfl
  have hexcluded : x.excluded = ((r.screen c changed).run (runner.files s)
      (c.candidates (runner.files s))).counts := by
    rw [← hx]
    rfl
  have hskipped : (∃ reason, x.status = .skipped reason) ↔ x.files = [] := by
    rw [hfiles, hstatus]
    exact skipped_lint_iff o c runner s
  have hsome (h : ∀ reason, x.status ≠ .skipped reason) : x.files ≠ [] := by
    intro hnone
    obtain ⟨reason, hreason⟩ := hskipped.mpr hnone
    exact h reason hreason
  constructor
  case candidates =>
    rw [hexcluded, hfiles, ← hx]
    exact Screen.size_run fun _ hp => Tree.isNormal_of_mem_collect hp
  case excluded =>
    intro entry hentry
    rw [hexcluded] at hentry
    exact ((Screened.mem_counts _).mp hentry).1
  case stages =>
    rw [hexcluded]
    exact Screened.pairwise_counts _
  case clean =>
    intro hclean
    refine hsome fun reason hreason => ?_
    cases hclean.symm.trans hreason
  case failed =>
    intro failure hfailed
    refine hsome fun reason hreason => ?_
    cases hfailed.symm.trans hreason
  case skipped =>
    intro reason hreason
    exact hskipped.mp ⟨reason, hreason⟩
  case problems =>
    intro problems hproblems
    have hnonempty : r.survivors changed c (runner.files s) ≠ [] := by
      rw [← hfiles]
      refine hsome fun reason hreason => ?_
      cases hproblems.symm.trans hreason
    rw [hstatus, value_lint c o runner s hnonempty] at hproblems
    obtain ⟨hne, hsub⟩ := problems_runTool c o.fix runner s hproblems
    refine ⟨hne, (pairwise_survivors r changed c _).sublist hsub, fun p hp => ?_⟩
    rw [hfiles]
    exact hsub.subset hp

/-- **An outcome** accounts for the candidates, also where the category was not examined. -/
theorem accounts_runCategory : ((r.runCategory o changed c).run runner s).value.Accounts := by
  rw [runCategory_eq]
  split
  · exact accounts_unchanged c
  · exact accounts_examine r o changed c runner s

/-- **The numbers of exclusions** are those of screening, counted in either way. -/
theorem excluded_runCategory (h : changed ≠ some .empty) :
    ∃ screened, screened =
        (r.screen c changed).run (runner.files s) (c.candidates (runner.files s)) ∧
      (∀ e, ((r.runCategory o changed c).run runner s).value.excludedBy e =
        screened.removedBy e) ∧
      ((r.runCategory o changed c).run runner s).value.excluded =
        (Tally.ofReasons (screened.removed.toList.map Prod.snd)).toList := by
  have hany : changed.any (·.isEmpty) = false := by
    rw [Bool.eq_false_iff]
    intro hempty
    obtain ⟨listed, hlisted, hnone⟩ := (Option.any_eq_true _ _).mp hempty
    exact h (hlisted.trans (congrArg some (Ascending.isEmpty_iff.mp hnone)))
  rw [runCategory_of_changes hany]
  exact ⟨_, rfl, Screened.lookup_counts _, Screened.counts_eq_tally _⟩

end Outcomes

/-! ## 3. The document

What a reader of the document can check by itself: the words and numbers of each entry, and the
code that they add up to. -/

/-- The exit code that an entry of a document gives, zero if it gives none. -/
def Json.exitCode (entry : Json) : Int :=
  match entry.member? "exit_code" with
  | some (.number code) => code
  | _ => 0

theorem Outcome.IsToldBy.exitCode_eq {x : Outcome} {entry : Json} (h : x.IsToldBy entry) :
    entry.exitCode = x.status.exitCode := by
  rw [Json.exitCode, h.exitCode]

/-! ## 4. Whole runs

The tree in which a category is screened is the one after the blocks before it. -/

/-- **A report accounts for every file.**  Every outcome of a completed run accounts for its
candidates.  Unless nothing has changed, its numbers of exclusions are those of screening the
candidates in the tree there then was.  The document of the report has an entry for each
outcome, in the order of the run, that tells of it; the entry says that the category failed
exactly if its exit code is not zero, it lists problems exactly if the files were linted one by
one and some have problems, and the exit code of the document is the first of the entries that
is not zero. -/
theorem accounting_law (r : Registry) (o : RunOptions) (runner : Runner σ) (s : σ)
    (report : Report) (hreport : ((r.run o).run runner s).value = .ok report) :
    (∃ selected changed, r.select o.categories = .ok selected ∧
      r.changedGiven o selected (r.listing runner s) = .ok changed ∧
      report.outcomes.map Outcome.key = selected.map Category.key ∧
      ∀ (k : Nat) (c : Category) (x : Outcome), selected[k]? = some c →
        report.outcomes[k]? = some x →
        x.Accounts ∧
        (changed = some .empty → x = c.unchanged) ∧
        (changed ≠ some .empty → ∃ t screened,
          t = runner.files (runner.after s (r.lead o selected ++
            ((blocks o.lint selected report.outcomes).take k).flatten)) ∧
          screened = (r.screen c changed).run t (c.candidates t) ∧
          (∀ e, x.excludedBy e = screened.removedBy e) ∧
          x.excluded = (Tally.ofReasons (screened.removed.toList.map Prod.snd)).toList)) ∧
    ∃ entries, report.document.member? "categories" = some (.array entries) ∧
      List.Forall₂ (fun x entry => x.IsToldBy entry ∧
        (entry.member? "status" = some (.string "failed") ↔ entry.exitCode ≠ 0) ∧
        ((∃ listed, entry.member? "problems" = some listed) ↔
          ∃ problems, x.status = .failed (.files problems))) report.outcomes entries ∧
      report.document.member? "exit_code" =
        some (.number (((entries.map Json.exitCode).find? (· != 0)).getD 0)) := by
  obtain ⟨selected, changed, hselect, hgiven, hxs, -⟩ := completed_run hreport
  have haccounts {k : Nat} {c : Category} {x : Outcome} (hc : selected[k]? = some c)
      (hx : report.outcomes[k]? = some x) : x.Accounts := by
    rw [outcome_eq hxs hc hx]
    exact accounts_runCategory ..
  constructor
  · refine ⟨selected, changed, hselect, hgiven, ?_, fun k c x hc hx => ?_⟩
    · rw [← hxs]
      exact keys_runCategories ..
    · refine ⟨haccounts hc hx, fun hempty => ?_, fun hchanged => ?_⟩
      · have hx := outcome_eq hxs hc hx
        rw [hempty] at hx
        exact hx
      · obtain ⟨screened, hscreened, hnumbers, htally⟩ :=
          excluded_runCategory r o.lint changed c runner (runner.after s (r.lead o selected ++
            ((blocks o.lint selected report.outcomes).take k).flatten)) hchanged
        rw [← outcome_eq hxs hc hx] at hnumbers htally
        exact ⟨_, screened, rfl, hscreened, hnumbers, htally⟩
  · have hsound : report.IsSound := isSound_outcomes hxs
    refine ⟨report.outcomes.map Outcome.document, rfl, ?_, ?_⟩
    · rw [List.forall₂_map_right_iff, List.forall₂_same]
      intro x hx
      have htold := x.isToldBy_document
      refine ⟨htold, ?_, ?_⟩
      · rw [htold.status, htold.exitCode_eq, Option.some.injEq, Json.string.injEq,
          Status.word_eq_failed_iff]
        exact hsound x hx
      · obtain ⟨k, hk⟩ := List.mem_iff_getElem?.mp hx
        obtain ⟨c, hc⟩ := category_of_outcome hxs hk
        rw [htold.problems_iff]
        exact (haccounts hc hk).problems_iff
    · show some (Json.number report.exitCode) = _
      have hcodes : (report.outcomes.map Outcome.document).map Json.exitCode =
          report.outcomes.map fun x => x.status.exitCode := by
        rw [List.map_map]
        exact List.map_congr_left fun x _ => x.isToldBy_document.exitCode_eq
      rw [report.exitCode_eq_find?, hcodes]

namespace Example

/-- The first script and a file that nobody owns have changed, and scripts cannot be linted. -/
def unlinted : Script := changes ++ [{ program := some "jslint", notFound := true }]

/-- One candidate is handed on and has a problem, the other is excluded since it has not
changed. -/
theorem accounting_law_sources :
    ∃ report x entry, ((registry.run options).run (scripted sources) unlinted).value = .ok report ∧
      report.outcomes[0]? = some x ∧ x.Accounts ∧
      x.candidates = 2 ∧ x.files = [.ofString "/src/a.js"] ∧ x.excluded = [(.notChanged, 1)] ∧
      (x.status.problems.map Prod.fst = [.ofString "/src/a.js"]) ∧
      (∃ screened, screened = (registry.screen (category "js" .perFile none)
          (some (changedPaths registry.sourceRoot "./a.js\nREADME\n"))).run sources
            ((category "js" .perFile none).candidates sources) ∧
        screened.removedBy .notChanged = 1) ∧
      x.IsToldBy entry ∧ (∃ listed, entry.member? "problems" = some listed) ∧
      report.document.member? "exit_code" = some (.number entry.exitCode) := by
  obtain ⟨report, hreport⟩ : ∃ report,
      ((registry.run options).run (scripted sources) unlinted).value = .ok report := ⟨_, rfl⟩
  obtain ⟨⟨selected, changed, hselect, hgiven, -, hlaw⟩, entries, -, htold, hcode⟩ :=
    accounting_law registry options (scripted sources) unlinted report hreport
  cases hselect
  cases hgiven
  cases hreport
  obtain ⟨haccounts, -, hnumbers⟩ := hlaw 0 _ _ rfl rfl
  obtain ⟨_, screened, rfl, hscreened, hnumbers, -⟩ := hnumbers (by decide)
  cases htold with
  | cons hfirst hrest =>
    obtain ⟨hentry, -, hproblems⟩ := hfirst
    refine ⟨_, _, _, rfl, rfl, haccounts, by decide, by decide, by decide, by decide,
      ⟨screened, hscreened, (hnumbers _).symm.trans (by decide)⟩, hentry,
      hproblems.mpr ⟨_, rfl⟩, ?_⟩
    rw [hcode, List.map_cons, hentry.exitCode_eq]
    rfl

end Example

end LintRun

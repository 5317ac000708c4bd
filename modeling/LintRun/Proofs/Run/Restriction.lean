import LintRun.Proofs.Changed.Listing
import LintRun.Proofs.Run.ExitCode
import LintRun.Proofs.Run.Files
import LintRun.Proofs.Screening.Counts

/-!
# Going by the changed files is a full run restricted

The listing of changed files is the last thing that a candidate is screened against, so it
takes nothing from the stages before it (`verdict_screen_some`): a run that goes by the
changed files hands on what a full run hands on and the listing names (`survivors_some`), and
the rest of it is counted as not changed.

Where nothing has changed no category is looked into.  That is a short cut and no other
result: looking into each of them (`Registry.examineAll`) finds no files, starts nothing and
fails nowhere (`examineAll_of_no_changes`).

The two runs that are compared need not have the same runner, nor the same replies: what is
assumed is that both show the same tree whenever they look at it.  A fixer that changes the
content of files is within that; one that adds or removes files is not, and for it the law
would be false.
-/

namespace LintRun

variable {σ τ : Type}

/-! ## 1. One category

A candidate has one verdict, and the listing is asked last.  So with a listing the verdict
is the one without, or if that is none, whether the listing names the candidate; the counts and
the survivors are filters by the verdict, and each follows by comparing two filters. -/

section OneCategory

variable {r : Registry} {c : Category} {t : Tree} {listed : PathSet}

/-- **The last stage.**  A listing has a say only on candidates that no other stage removes. -/
theorem verdict_screen_some (p : Path) :
    (r.screen c (some listed)).verdict t p =
      ((r.screen c none).verdict t p).or (Exclusion.when .notChanged (!listed.has p)) := by
  have hnone : Exclusion.when .notChanged ((none : Option PathSet).any fun l => !l.has p) = none :=
    rfl
  have hsome : (some listed).any (fun l => !l.has p) = !listed.has p := rfl
  show (Exclusion.when _ _).or ((Exclusion.when _ _).or (Exclusion.when _ _)) =
    ((Exclusion.when _ _).or ((Exclusion.when _ _).or (Exclusion.when _ _))).or _
  rw [show (r.screen c (some listed)).changed = some listed from rfl,
    show (r.screen c none).changed = none from rfl, hnone, hsome, Option.or_none, Option.or_assoc]
  rfl

/-- Without a listing nothing is removed for not being listed. -/
theorem verdict_screen_none_ne (p : Path) :
    (r.screen c none).verdict t p ≠ some .notChanged := by
  rw [Ne, Screen.verdict_eq_notChanged_iff]
  rintro ⟨-, -, changed, hchanged, -⟩
  cases hchanged

/-- What is handed on, as a filter of the candidates. -/
theorem survivors_eq (changed : Option PathSet) :
    r.survivors changed c t =
      (c.candidates t).toList.filter fun p => (r.screen c changed).verdict t p = none :=
  congrArg Ascending.toList (Screen.kept_run fun _ hp => Tree.isNormal_of_mem_collect hp)

/-- **The files of a restricted run** are those of a full run that the listing names. -/
theorem survivors_some :
    r.survivors (some listed) c t = (r.survivors none c t).filter listed.has := by
  rw [survivors_eq, survivors_eq, List.filter_filter]
  refine List.filter_congr fun p _ => ?_
  rw [verdict_screen_some, Bool.eq_iff_iff, Bool.and_eq_true, decide_eq_true_iff,
    decide_eq_true_iff, Option.or_eq_none_iff, Exclusion.when_eq_none_iff, Bool.not_eq_false',
    and_comm]

/-- What a stage removes from the candidates of a category. -/
def Registry.removals (r : Registry) (changed : Option PathSet) (c : Category) (t : Tree)
    (e : Exclusion) : List Path :=
  ((r.screen c changed).run t (c.candidates t)).removedFor e

/-- What a stage removes, as a filter of the candidates. -/
theorem removals_eq (changed : Option PathSet) (e : Exclusion) :
    r.removals changed c t e =
      (c.candidates t).toList.filter fun p => (r.screen c changed).verdict t p = some e :=
  Screen.removedFor_run (fun _ hp => Tree.isNormal_of_mem_collect hp) e

/-- The stages before the listing remove the same files. -/
theorem removals_some_of_ne {e : Exclusion} (he : e ≠ .notChanged) :
    r.removals (some listed) c t e = r.removals none c t e := by
  rw [removals_eq, removals_eq]
  refine List.filter_congr fun p _ => ?_
  rw [verdict_screen_some, decide_eq_decide, Option.or_eq_some_iff, Exclusion.when_eq_some_iff]
  constructor
  · rintro (h | ⟨-, -, h⟩)
    · exact h
    · exact absurd h he
  · exact .inl

/-- The listing removes the files of a full run that it does not name. -/
theorem removals_some_notChanged :
    r.removals (some listed) c t .notChanged =
      (r.survivors none c t).filter fun p => !listed.has p := by
  rw [removals_eq, survivors_eq, List.filter_filter]
  refine List.filter_congr fun p _ => ?_
  rw [verdict_screen_some, Bool.eq_iff_iff, Bool.and_eq_true, decide_eq_true_iff,
    decide_eq_true_iff, Option.or_eq_some_iff, Exclusion.when_eq_some_iff]
  constructor
  · rintro (h | ⟨hnone, hnot, -⟩)
    · exact absurd h (verdict_screen_none_ne p)
    · exact ⟨hnot, hnone⟩
  · rintro ⟨hnot, hnone⟩
    exact .inr ⟨hnone, hnot, rfl⟩

variable {o : LintOptions} {changed : Option PathSet} {runner : Runner σ} {s : σ}

/-- How many candidates an outcome counts does not depend on the listing. -/
theorem candidates_examine :
    ((r.examine o changed c).run runner s).value.candidates =
      (c.candidates (runner.files s)).size := rfl

/-- What an outcome counts as excluded is what the stage removes. -/
theorem excludedBy_examine (e : Exclusion) :
    ((r.examine o changed c).run runner s).value.excludedBy e =
      (r.removals changed c (runner.files s) e).length :=
  (Screened.lookup_counts _ e).trans (Screened.removedBy_eq _ e)

/-- Knowing of no changes a category is not examined; otherwise it is. -/
theorem runCategory_of_changes (h : changed.any (·.isEmpty) = false) :
    (r.runCategory o changed c : Action σ Outcome) = r.examine o changed c := by
  rw [runCategory_eq, h]
  rfl

end OneCategory

/-! ## 2. No changes -/

section NoChanges

variable {r : Registry} {o : LintOptions} {changed : Option PathSet}

/-- Every category examined, also where nothing has changed. -/
def Registry.examineAll (r : Registry) (o : LintOptions) (changed : Option PathSet)
    (cs : List Category) : Action σ (List Outcome) :=
  cs.mapM (r.examine o changed)

/-- With no changes a row of categories starts nothing and reads nothing. -/
theorem runCategories_of_no_changes (h : changed.any (·.isEmpty) = true) (cs : List Category) :
    (r.runCategories o changed cs : Action σ _) = pure (cs.map Category.unchanged) := by
  induction cs with
  | nil => rfl
  | cons c cs ih =>
    rw [Registry.runCategories, runCategory_eq, if_pos h, ih, pure_bind, pure_bind]
    rfl

/-- **Examining a category that has not changed** finds and starts nothing. -/
theorem examine_of_no_changes (h : changed.any (·.isEmpty) = true) (c : Category)
    (runner : Runner σ) (s : σ) :
    ((r.examine o changed c).run runner s).started = [] ∧
      ((r.examine o changed c).run runner s).value.files = [] ∧
      ((r.examine o changed c).run runner s).value.status = .skipped .noFiles := by
  have hfiles : ((r.examine o changed c).run runner s).value.files = [] :=
    survivors_of_no_changes r changed c h (runner.files s)
  have hstatus : ((r.examine o changed c).run runner s).value.status = .skipped .noFiles :=
    lint_of_no_files c o hfiles runner s
  refine ⟨?_, hfiles, hstatus⟩
  rw [started_examine, hfiles, hstatus, Category.starts, c.toolStarts_nil,
    c.fixerStarts_of_not_isFixable o rfl, List.nil_append]

/-- **The short cut takes nothing away**: examining every category although nothing has
changed finds and starts nothing, and no category fails. -/
theorem examineAll_of_no_changes (h : changed.any (·.isEmpty) = true) (cs : List Category)
    (runner : Runner σ) (s : σ) :
    ((r.examineAll o changed cs).run runner s).started = [] ∧
      ((r.examineAll o changed cs).run runner s).value.map Outcome.files =
        (cs.map Category.unchanged).map Outcome.files ∧
      ∀ x ∈ ((r.examineAll o changed cs).run runner s).value, x.status.exitCode = 0 := by
  induction cs generalizing s with
  | nil => exact ⟨rfl, rfl, nofun⟩
  | cons c cs ih =>
    obtain ⟨hstarted, hfiles, hstatus⟩ := examine_of_no_changes (r := r) (o := o) h c runner s
    obtain ⟨hstarteds, hfiless, hcodes⟩ := ih ((r.examine o changed c).run runner s).state
    rw [Registry.examineAll, List.mapM_cons]
    refine ⟨?_, ?_, fun x hx => ?_⟩
    · rw [Action.started_bind, Action.started_bind, Action.started_pure, hstarted,
        List.append_nil]
      exact hstarteds
    · exact congrArg₂ List.cons hfiles hfiless
    · rcases List.mem_cons.mp hx with rfl | hx
      · exact congrArg Status.exitCode hstatus
      · exact hcodes x hx

end NoChanges

/-! ## 3. Whole runs

What is assumed of the two runs is used category by category: outcome by outcome in the
place of its category, each the result of `runCategory` over the tree that both runs show. -/

/-- The same options, but all files count and not only the changed ones. -/
def RunOptions.unrestricted (o : RunOptions) : RunOptions := { o with changedOnly := false }

/-- **An outcome restricts another**: its files are those that a listing names, and unless the
listing is empty, in which case nothing is looked into, both count the same candidates and the
same exclusions, but for the files that the listing does not name. -/
structure Outcome.Restricts (x y : Outcome) (listed : PathSet) : Prop where
  files : x.files = y.files.filter listed.has
  candidates : listed ≠ .empty → x.candidates = y.candidates
  blacklisted : listed ≠ .empty → x.excludedBy .blacklisted = y.excludedBy .blacklisted
  ignoredSubtree : listed ≠ .empty → x.excludedBy .ignoredSubtree = y.excludedBy .ignoredSubtree
  notChanged : listed ≠ .empty →
    x.excludedBy .notChanged = (y.files.filter fun p => !listed.has p).length

section Runs

variable {r : Registry} {o : RunOptions} {selected : List Category} {listed : PathSet}
  {runner : Runner σ} {s : σ} {runner' : Runner τ} {s' : τ} {t : Tree} {c : Category}

/-- A listing is worth looking into if it names something. -/
theorem any_isEmpty_eq_false_iff :
    (some listed).any (·.isEmpty) = false ↔ listed ≠ .empty := by
  rw [Option.any_some, Bool.eq_false_iff, Ne, Ascending.isEmpty_iff]

/-- One category over one tree, with a listing and without. -/
theorem runCategory_restricts (o : LintOptions) (hfiles : runner.files s = t)
    (hfiles' : runner'.files s' = t) :
    ((r.runCategory o (some listed) c).run runner s).value.Restricts
      ((r.runCategory o none c).run runner' s').value listed := by
  have hfull : (r.runCategory o none c : Action τ Outcome) = r.examine o none c :=
    runCategory_of_changes rfl
  have hlisted (hne : listed ≠ .empty) :
      (r.runCategory o (some listed) c : Action σ Outcome) = r.examine o (some listed) c :=
    runCategory_of_changes (any_isEmpty_eq_false_iff.mpr hne)
  constructor
  case files =>
    rw [files_runCategory, files_runCategory, hfiles, hfiles', survivors_some]
  case candidates =>
    intro hne
    rw [hlisted hne, hfull, candidates_examine, candidates_examine, hfiles, hfiles']
  case notChanged =>
    intro hne
    rw [files_runCategory, hlisted hne, excludedBy_examine, hfiles, hfiles',
      removals_some_notChanged]
  all_goals
    intro hne
    rw [hlisted hne, hfull, excludedBy_examine, excludedBy_examine, hfiles, hfiles',
      removals_some_of_ne (by decide)]

/-- A run that goes by a listing: what it goes by is the listing if there is a category. -/
theorem changedGiven_of_listed (honly : o.changedOnly = true)
    (hlisted : ∃ output, r.listing runner s = .ok output ∧ output.code = 0 ∧
      changedPaths r.sourceRoot output.stdout = listed) :
    r.changedGiven o selected (r.listing runner s) =
      .ok (if selected.isEmpty then none else some listed) := by
  obtain ⟨output, houtput, hcode, rfl⟩ := hlisted
  rw [changedGiven_eq_ok_iff, honly, Bool.true_and]
  cases selected with
  | nil => exact rfl
  | cons c cs => exact ⟨output, houtput, hcode, rfl⟩

/-- A full run goes by no listing, whatever the listing command would say. -/
theorem changedGiven_unrestricted (result : Except StartError Output) :
    r.changedGiven o.unrestricted selected result = .ok none := rfl

end Runs

/-- **Going by the changed files is a full run restricted.**  Two runs over one tree, one of
which goes by a listing of changed files: its outcomes restrict those of the full run, and
tools and fixers are started over listed files only.  If the listing is empty, nothing but the
listing command is started, every category is skipped and the exit code is zero, and to
examine every category all the same comes to the same files, starts and exit code. -/
theorem restriction_law (r : Registry) (o : RunOptions) (honly : o.changedOnly = true)
    (selected : List Category) (hselect : r.select o.categories = .ok selected)
    (runner : Runner σ) (s : σ) (runner' : Runner τ) (s' : τ) (t : Tree)
    (hfixed : runner.Shows t s ((r.run o).run runner s).started)
    (hfixed' : runner'.Shows t s' ((r.run o.unrestricted).run runner' s').started)
    (listed : PathSet) (hlisted : ∃ output, r.listing runner s = .ok output ∧
      output.code = 0 ∧ changedPaths r.sourceRoot output.stdout = listed) :
    ∃ report full,
      ((r.run o).run runner s).value = .ok report ∧
      ((r.run o.unrestricted).run runner' s').value = .ok full ∧
      report.outcomes.map Outcome.key = selected.map Category.key ∧
      full.outcomes.map Outcome.key = selected.map Category.key ∧
      ((r.run o).run runner s).started =
        r.lead o selected ++ (blocks o.lint selected report.outcomes).flatten ∧
      (∀ (k : Nat) (c : Category) (x y : Outcome), selected[k]? = some c →
        report.outcomes[k]? = some x → full.outcomes[k]? = some y →
        x.Restricts y listed ∧
        (blocks o.lint selected report.outcomes)[k]? = some
          (c.toolStarts o.lint.fix x.files ++ c.fixerStarts o.lint x.files x.status) ∧
        ∀ i ∈ c.toolStarts o.lint.fix x.files ++ c.fixerStarts o.lint x.files x.status,
          ∃ files : List Path, (∀ p ∈ files, p ∈ listed) ∧ c.StartsOver o.lint.fix files i) ∧
      (listed = .empty →
        ((r.run o).run runner s).started = r.lead o selected ∧
        (∀ x ∈ report.outcomes, x.status = .skipped .noChangedFiles) ∧
        report.exitCode = 0 ∧
        ∃ xs, ((r.examineAll o.lint (some listed) selected).run runner
            (runner.after s (r.lead o selected))).value = xs ∧
          xs.map Outcome.files = report.outcomes.map Outcome.files ∧
          ((r.examineAll o.lint (some listed) selected).run runner
            (runner.after s (r.lead o selected))).started = [] ∧
          (⟨xs⟩ : Report).exitCode = report.exitCode) := by
  obtain ⟨hstarted, hreport⟩ := run_of_given hselect (changedGiven_of_listed honly hlisted)
  have hgiven' : r.changedGiven o.unrestricted selected (r.listing runner' s') = .ok none :=
    changedGiven_unrestricted _
  obtain ⟨hstarted', hfull⟩ := run_of_given (o := o.unrestricted) hselect hgiven'
  refine ⟨_, _, hreport, hfull, keys_runCategories .., keys_runCategories .., hstarted,
    fun k c x y hc hx hy => ?_, fun hempty => ?_⟩
  · have hselected : selected ≠ [] := List.ne_nil_of_mem (List.mem_of_getElem? hc)
    rw [if_neg (by simpa using hselected)] at hx hstarted ⊢
    rw [hstarted] at hfixed
    rw [hstarted'] at hfixed'
    have hxc := outcome_eq rfl hc hx
    have hyc := outcome_eq (o := o.unrestricted) rfl hc hy
    have hrestricts : x.Restricts y listed := by
      rw [hxc, hyc]
      exact runCategory_restricts o.lint (files_before_block hfixed k)
        (files_before_block hfixed' k)
    refine ⟨hrestricts, getElem?_blocks hc hx, fun i hi => ?_⟩
    obtain ⟨files, hfiles, hstart⟩ := c.startsOver_of_mem_starts o.lint hi
    refine ⟨files, fun p hp => ?_, hstart⟩
    replace hp := hfiles hp
    have hnormal : p.IsNormal := by
      rw [hxc, files_runCategory, mem_survivors_iff] at hp
      exact Tree.isNormal_of_mem_collect hp.1
    rw [hrestricts.files, List.mem_filter] at hp
    obtain ⟨output, -, -, rfl⟩ := hlisted
    exact PathSet.mem_of_has allNormal_changedPaths hnormal hp.2
  · have hshort : (r.runCategories o.lint (if selected.isEmpty then none else some listed)
        selected : Action σ _) = pure (selected.map Category.unchanged) := by
      cases selected with
      | nil => rfl
      | cons c cs => exact runCategories_of_no_changes (hempty ▸ rfl) _
    have hnothing : (some listed).any (·.isEmpty) = true := hempty ▸ rfl
    obtain ⟨hnone, hfiles, hcodes⟩ := examineAll_of_no_changes (r := r) (o := o.lint) hnothing
      selected runner (runner.after s (r.lead o selected))
    rw [← started_runCategories, hshort] at hstarted
    rw [hshort]
    have hzero : (⟨selected.map Category.unchanged⟩ : Report).exitCode = 0 :=
      Report.exitCode_eq_zero_of_forall fun x hx => by
        obtain ⟨c, -, rfl⟩ := List.mem_map.mp hx
        rfl
    refine ⟨hstarted.trans (List.append_nil _), fun x hx => ?_, hzero, _, rfl, hfiles, hnone, ?_⟩
    · obtain ⟨c, -, rfl⟩ := List.mem_map.mp hx
      rfl
    · exact (Report.exitCode_eq_zero_of_forall hcodes).trans hzero.symm

namespace Example

/-- The first script and a file that nobody owns have changed. -/
def changes : Script := [{ program := some "git", output := { stdout := "./a.js\nREADME\n" } }]

/-- The law for one script that is listed and one that is not: the second is counted as not
changed. -/
theorem restriction_law_sources :
    ∃ report full,
      ((registry.run options).run (scripted sources) changes).value = .ok report ∧
      ((registry.run options.unrestricted).run (scripted sources) []).value = .ok full ∧
      ∃ x y, report.outcomes[0]? = some x ∧ full.outcomes[0]? = some y ∧
        x.Restricts y (changedPaths registry.sourceRoot "./a.js\nREADME\n") ∧
        x.files = [.ofString "/src/a.js"] ∧
        y.files = [.ofString "/src/a.js", .ofString "/src/b.js"] ∧
        x.excludedBy .notChanged = 1 := by
  have hfixed (o : RunOptions) (script : Script) : (scripted sources).Shows sources script
      ((registry.run o).run (scripted sources) script).started :=
    Runner.shows_scripted sources script _
  have hrun (o : RunOptions) (honly : o.changedOnly = true)
      (hselect : registry.select o.categories = .ok registry.categories) :=
    restriction_law registry o honly registry.categories hselect (scripted sources) changes
      (scripted sources) ([] : Script) sources (hfixed o changes) (hfixed o.unrestricted [])
      _ ⟨_, rfl, rfl, rfl⟩
  obtain ⟨report, full, hreport, hfull, -, -, -, hlaw, -⟩ := hrun options rfl rfl
  cases hreport
  cases hfull
  obtain ⟨hrestricts, -⟩ := hlaw 0 _ _ _ rfl rfl rfl
  have hnonempty : changedPaths registry.sourceRoot "./a.js\nREADME\n" ≠ .empty := by decide
  refine ⟨_, _, rfl, rfl, _, _, rfl, rfl, hrestricts, hrestricts.files.trans (by decide),
    by decide, (hrestricts.notChanged hnonempty).trans (by decide)⟩

end Example

end LintRun

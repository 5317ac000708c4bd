import LintRun.Proofs.Run.Protocol

/-!
# A failure is never reported as success

The exit code of a report looks at exit codes, its list of failures at statuses.  They agree
because no outcome of a run is a failure with exit code zero (`Report.IsSound`), and that is
so because linting makes none (`exits_runCategory`).

The exit code of a run is settled with its first failure: what is replied to later processes
has no effect on it (`exitCode_eq_of_alike`).

For the last part two runs are compared that part ways after the block of the failing category.
A row of categories can be run in two pieces (`runCategories_append`), and the first piece is
causal; so a runner that replies alike up to the end of it gives the same outcomes there.  The
second run has more outcomes, which come from other replies, but the exit code is that of the
first failure, and this one is among the outcomes that both share.
-/

namespace LintRun

variable {σ : Type}

/-! ## 1. Sound reports

The first failure is looked for by exit code, the list of failures by status; for a sound
report these are one condition. -/

namespace Report

/-- **The invariant of reports**: outcomes are failures exactly if their exit codes are not
zero. -/
def IsSound (report : Report) : Prop :=
  ∀ x ∈ report.outcomes, x.status.isFailure = true ↔ x.status.exitCode ≠ 0

variable {report report' : Report}

theorem IsSound.failures_eq (h : report.IsSound) :
    report.failures = report.outcomes.filter fun x => x.status.exitCode != 0 := by
  refine List.filter_congr fun x hx => ?_
  rw [Bool.eq_iff_iff, h x hx, bne_iff_ne]

/-- **The first failure** is the first of the failures. -/
theorem IsSound.firstFailure?_eq (h : report.IsSound) :
    report.firstFailure? = report.failures.head? := by
  rw [h.failures_eq, List.head?_filter]
  rfl

theorem IsSound.firstFailure?_of_getElem? (h : report.IsSound) {k : Nat} {x : Outcome}
    (hx : report.outcomes[k]? = some x) (hfailed : x.status.isFailure = true)
    (hbefore : ∀ j < k, ∀ y, report.outcomes[j]? = some y → y.status.isFailure = false) :
    report.firstFailure? = some x := by
  obtain ⟨hk, hxk⟩ := List.getElem?_eq_some_iff.mp hx
  refine List.find?_eq_some_iff_getElem.mpr ⟨?_, k, hk, hxk, fun j hj => ?_⟩
  · rw [bne_iff_ne]
    exact (h x (List.mem_of_getElem? hx)).mp hfailed
  · have hfine := hbefore j hj _ (List.getElem?_eq_getElem (hj.trans hk))
    have hcode := h _ (List.getElem_mem (hj.trans hk))
    rw [hfine] at hcode
    rw [Bool.not_eq_true', bne_eq_false_iff_eq]
    exact Decidable.not_not.mp fun hne => Bool.false_ne_true (hcode.mpr hne)

theorem exitCode_of_firstFailure? {x : Outcome} (h : report.firstFailure? = some x) :
    report.exitCode = x.status.exitCode := by
  rw [exitCode, h]

/-- The code zero means that no outcome has another. -/
theorem exitCode_eq_zero_iff : report.exitCode = 0 ↔ report.firstFailure? = none := by
  unfold exitCode
  cases hfirst : report.firstFailure? with
  | none => exact ⟨fun _ => rfl, fun _ => rfl⟩
  | some x =>
    refine ⟨fun hzero => ?_, nofun⟩
    have hcode := List.find?_some hfirst
    rw [bne_iff_ne] at hcode
    exact absurd hzero hcode

theorem exitCode_eq_zero_of_forall (h : ∀ x ∈ report.outcomes, x.status.exitCode = 0) :
    report.exitCode = 0 := by
  rw [exitCode_eq_zero_iff, firstFailure?, List.find?_eq_none]
  intro x hx
  rw [bne_iff_ne, h x hx]
  exact fun hne => hne rfl

theorem IsSound.exitCode_eq_zero_iff (h : report.IsSound) :
    report.exitCode = 0 ↔ report.failures = [] := by
  rw [Report.exitCode_eq_zero_iff, h.firstFailure?_eq, List.head?_eq_none_iff]

/-- Reports that start alike have one exit code if they fail before they part. -/
theorem exitCode_eq_of_prefix {xs ys ys' : List Outcome} {x : Outcome}
    (hx : x ∈ xs) (hfailed : x.status.exitCode ≠ 0) :
    (⟨xs ++ ys'⟩ : Report).exitCode = (⟨xs ++ ys⟩ : Report).exitCode := by
  obtain ⟨first, hfirst⟩ : ∃ first, xs.find? (fun o => o.status.exitCode != 0) = some first := by
    rw [← Option.isSome_iff_exists, List.find?_isSome]
    exact ⟨x, hx, bne_iff_ne.mpr hfailed⟩
  have hboth (zs : List Outcome) : (⟨xs ++ zs⟩ : Report).firstFailure? = some first := by
    rw [firstFailure?, List.find?_append, hfirst]
    rfl
  rw [exitCode_of_firstFailure? (hboth ys'), exitCode_of_firstFailure? (hboth ys)]

end Report

/-! ## 2. Reports of runs

Soundness is a matter of each outcome by itself. -/

section Runs

variable {r : Registry} {o : RunOptions} {runner runner' : Runner σ} {s s' : σ}
  {selected : List Category} {changed : Option PathSet} {xs : List Outcome}

theorem exits_outcome
    (hxs : ((r.runCategories o.lint changed selected).run runner
      (runner.after s (r.lead o selected))).value = xs)
    {k : Nat} {c : Category} {x : Outcome} (hc : selected[k]? = some c) (hx : xs[k]? = some x) :
    x.status.Exits (c.failureCode o.lint.fix x.files runner (runner.after s
      (r.lead o selected ++ ((blocks o.lint selected xs).take k).flatten))) := by
  have hexits := exits_runCategory r o.lint changed c runner (runner.after s
    (r.lead o selected ++ ((blocks o.lint selected xs).take k).flatten))
  rw [← outcome_eq hxs hc hx] at hexits
  exact hexits

/-- **Reports of runs are sound.** -/
theorem isSound_outcomes
    (hxs : ((r.runCategories o.lint changed selected).run runner
      (runner.after s (r.lead o selected))).value = xs) :
    (⟨xs⟩ : Report).IsSound := by
  intro x hx
  obtain ⟨k, hk⟩ := List.mem_iff_getElem?.mp hx
  obtain ⟨c, hc⟩ := category_of_outcome hxs hk
  exact (exits_outcome hxs hc hk).isFailure_iff

/-! ## 3. Later replies

What a run would have come to with other replies is a statement about two runners, and they
need be alike only as far as the failure. -/

/-- Categories can be run in two goes. -/
theorem runCategories_append (r : Registry) (o : LintOptions) (changed : Option PathSet)
    (cs ds : List Category) :
    (r.runCategories o changed (cs ++ ds) : Action σ _) = (do
      let xs ← r.runCategories o changed cs
      let ys ← r.runCategories o changed ds
      return xs ++ ys) := by
  induction cs with
  | nil => simp [Registry.runCategories]
  | cons c cs ih => simp [Registry.runCategories, ih]

/-- **The outcomes up to a category** are all that its run and the runs before it make of the
replies to their processes. -/
theorem outcomes_of_alike {n : Nat} (hn : n ≤ selected.length)
    (hxs : ((r.runCategories o.lint changed selected).run runner s).value = xs)
    (halike : runner.Alike runner' s s' ((blocks o.lint selected xs).take n).flatten) :
    ∃ zs ys ys', zs.length = n ∧ xs = zs ++ ys ∧
      ((r.runCategories o.lint changed selected).run runner' s').value = zs ++ ys' := by
  -- Whatever the runner, the first outcomes are those of the first categories alone.
  have hsplit (runner : Runner σ) (s : σ) : ∃ ys,
      ((r.runCategories o.lint changed selected).run runner s).value =
        ((r.runCategories o.lint changed (selected.take n)).run runner s).value ++ ys := by
    conv in r.runCategories o.lint changed selected =>
      rw [← List.take_append_drop n selected, runCategories_append]
    exact ⟨_, rfl⟩
  obtain ⟨ys, hys⟩ := hsplit runner s
  obtain ⟨ys', hys'⟩ := hsplit runner' s'
  generalize hzs : ((r.runCategories o.lint changed (selected.take n)).run runner s).value = zs
    at hys
  have hlength : zs.length = n := by
    rw [← hzs, length_runCategories, List.length_take, Nat.min_eq_left hn]
  have hstarted : ((r.runCategories o.lint changed (selected.take n)).run runner s).started =
      ((blocks o.lint selected xs).take n).flatten := by
    rw [started_runCategories, hzs, blocks, blocks, List.take_zipWith, ← hxs, hys, ← hlength,
      List.take_left]
  rw [← hstarted] at halike
  have hsame := ((causal_runCategories r o.lint changed _).alike halike).1
  rw [hzs] at hsame
  exact ⟨zs, ys, ys', hlength, hxs.symm.trans hys, hsame ▸ hys'⟩

/-- **A failure settles the exit code**: a runner that replies alike up to the end of its
block leads to the same code. -/
theorem exitCode_eq_of_alike {report : Report} (hselect : r.select o.categories = .ok selected)
    (hreport : ((r.run o).run runner s).value = .ok report)
    {k : Nat} {x : Outcome} (hx : report.outcomes[k]? = some x)
    (hfailed : x.status.exitCode ≠ 0)
    (halike : runner.Alike runner' s s' (r.lead o selected ++
      ((blocks o.lint selected report.outcomes).take (k + 1)).flatten)) :
    ∃ report', ((r.run o).run runner' s').value = .ok report' ∧
      report'.exitCode = report.exitCode := by
  obtain ⟨_, changed, hselect', hgiven, hxs, -⟩ := completed_run hreport
  cases hselect.symm.trans hselect'
  obtain ⟨hlead, hrest⟩ := Runner.alike_append.mp halike
  have hgiven' : r.changedGiven o selected (r.listing runner' s') = .ok changed := by
    rw [← started_changedFor r o selected runner s] at hlead
    have hvalue := ((causal_changedFor r o selected).alike hlead).1
    rw [value_changedFor, value_changedFor] at hvalue
    exact hvalue.trans hgiven
  obtain ⟨c, hc⟩ := category_of_outcome hxs hx
  obtain ⟨hk, -⟩ := List.getElem?_eq_some_iff.mp hc
  obtain ⟨zs, ys, ys', hlength, hsplit, hsplit'⟩ := outcomes_of_alike hk hxs hrest
  have hmem : x ∈ zs := by
    rw [hsplit, List.getElem?_append_left (hlength ▸ Nat.lt_succ_self k)] at hx
    exact List.mem_of_getElem? hx
  refine ⟨_, (run_of_given hselect hgiven').2, ?_⟩
  rw [hsplit', show report = ⟨zs ++ ys⟩ from congrArg Report.mk hsplit]
  exact Report.exitCode_eq_of_prefix hmem hfailed

end Runs

/-- **A failure is never reported as success.**  Outcomes are failures exactly if their exit
codes are not zero, so the exit code is zero exactly if nothing failed.  Otherwise it is the
code of the first failure, which is what its tool said of all files at once or the general
one, and replies to later processes do not change it. -/
theorem exitCode_law (r : Registry) (o : RunOptions) (runner : Runner σ) (s : σ)
    (report : Report) (hreport : ((r.run o).run runner s).value = .ok report) :
    (∀ x ∈ report.outcomes, x.status.isFailure = true ↔ x.status.exitCode ≠ 0) ∧
    (report.exitCode = 0 ↔ report.failures = []) ∧
    report.firstFailure? = report.failures.head? ∧
    ∃ selected, r.select o.categories = .ok selected ∧
      ∀ k c x, selected[k]? = some c → report.outcomes[k]? = some x →
        x.status.isFailure = true →
        (∀ j < k, ∀ y, report.outcomes[j]? = some y → y.status.isFailure = false) →
        report.firstFailure? = some x ∧
        report.exitCode = x.status.exitCode ∧
        x.status.exitCode = c.failureCode o.lint.fix x.files runner (runner.after s
          (r.lead o selected ++ ((blocks o.lint selected report.outcomes).take k).flatten)) ∧
        ∀ runner' s', runner.Alike runner' s s' (r.lead o selected ++
            ((blocks o.lint selected report.outcomes).take (k + 1)).flatten) →
          ∃ report', ((r.run o).run runner' s').value = .ok report' ∧
            report'.exitCode = report.exitCode := by
  obtain ⟨selected, changed, hselect, -, hxs, -⟩ := completed_run hreport
  have hsound : report.IsSound := isSound_outcomes hxs
  refine ⟨hsound, hsound.exitCode_eq_zero_iff, hsound.firstFailure?_eq, selected, hselect, ?_⟩
  intro k c x hc hx hfailed hbefore
  have hexits := exits_outcome hxs hc hx
  have hfirst := hsound.firstFailure?_of_getElem? hx hfailed hbefore
  exact ⟨hfirst, Report.exitCode_of_firstFailure? hfirst, hexits.exitCode_eq hfailed,
    fun runner' s' halike =>
      exitCode_eq_of_alike hselect hreport hx (hexits.isFailure_iff.mp hfailed) halike⟩

namespace Example

/-- The replies when the module is not faulty but its tool is missing. -/
def otherAnswers : Script :=
  [{ program := some "git", output := { stdout := "a.js\nb.js\nc.py\n" } },
    { program := some "jslint", times := some 1, notFound := true },
    { program := some "pylint", notFound := true }]

/-- Two scripts of replies that differ after the first failure. -/
theorem exitCode_law_sources :
    ∃ report report', ((registry.run options).run (scripted sources) answers).value = .ok report ∧
      report.exitCode = 1 ∧
      ((registry.run options).run (scripted sources) otherAnswers).value = .ok report' ∧
      report'.exitCode = report.exitCode := by
  obtain ⟨report, hreport⟩ : ∃ report,
      ((registry.run options).run (scripted sources) answers).value = .ok report := ⟨_, rfl⟩
  obtain ⟨-, -, -, selected, hselect, hlaw⟩ :=
    exitCode_law registry options (scripted sources) answers report hreport
  cases hselect
  cases hreport
  obtain ⟨-, hcode, hown, hother⟩ := hlaw 0 _ _ rfl rfl (by decide) nofun
  obtain ⟨report', hreport', hsame⟩ := hother (scripted sources) otherAnswers
    ⟨rfl, rfl, rfl, rfl, rfl, rfl, rfl⟩
  exact ⟨_, report', rfl, hcode.trans hown, hreport', hsame⟩

end Example

end LintRun

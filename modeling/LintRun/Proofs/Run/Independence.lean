import LintRun.Proofs.Registry.Selection
import LintRun.Proofs.Run.Protocol
import Mathlib.Data.List.Zip

/-!
# Categories do not interfere

With a runner that answers by the invocation alone, what comes of a category does not depend
on the state it is reached in (`value_runCategory_of_steady`), so that a run takes its
categories one by one as if each were the only one (`value_runCategories_of_steady`).  A run
over some categories is then what a run over all of them has to say of these
(`answering_map`): outcomes as well as starts.

A steady runner is as good as a function of invocations: it is so in every state, and so in the
states between the blocks.  Outcomes can then be named without a state, as a list over the
categories, and a run over some of them is the same list over fewer.  The listing is asked for
in both runs or in neither, unless nothing is selected; a request of known names selects
something.

That the names of a request matter only through what they select holds of any runner.
-/

namespace LintRun

variable {σ : Type}

/-! ## 1. Each category as if it were the only one

By induction on the categories, each in the state after the one before. -/

section Steady

variable {r : Registry} {o : LintOptions} {changed : Option PathSet} {runner : Runner σ} {s s' : σ}
  {t : Tree} {reply : Invocation → Except StartError Output}

/-- **A category comes to the same in any two steady states**, as it cannot tell them apart. -/
theorem value_runCategory_of_steady (h : runner.Steady t reply s) (h' : runner.Steady t reply s')
    (c : Category) :
    ((r.runCategory o changed c).run runner s').value =
      ((r.runCategory o changed c).run runner s).value :=
  ((causal_runCategory r o changed c).alike (h.alike h' fun _ _ => rfl)).1

/-- **A run takes its categories one by one.** -/
theorem value_runCategories_of_steady (h : runner.Steady t reply s) (cs : List Category) :
    ((r.runCategories o changed cs).run runner s).value =
      cs.map fun c => ((r.runCategory o changed c).run runner s).value := by
  induction cs generalizing s with
  | nil => rfl
  | cons c cs ih =>
    have hnext := h.after ((r.runCategory o changed c).run runner s).started
    rw [value_runCategories_cons, ih hnext, List.map_cons]
    exact congrArg _ (List.map_congr_left fun d _ => value_runCategory_of_steady h hnext d)

end Steady

/-! ## 2. What stands beside the categories of a request

Outcomes and blocks are lists beside the categories, so that the part of either which belongs
to a request can be cut out in the same way. -/

/-- The items that stand beside categories which answer to some of the names. -/
def answering {α : Type} (names : List String) (cs : List Category) (xs : List α) : List α :=
  ((cs.zip xs).filter fun e => e.1.names.any names.contains).map Prod.snd

/-- What stands beside the categories of a request is the list over these. -/
theorem answering_map {α : Type} (names : List String) (f : Category → α) (cs : List Category) :
    answering names cs (cs.map f) =
      (cs.filter fun c => c.names.any names.contains).map f := by
  induction cs with
  | nil => rfl
  | cons c cs ih =>
    rw [answering, List.map_cons, List.zip_cons_cons, List.filter_cons, List.filter_cons]
    split
    · exact congrArg (f c :: ·) ih
    · exact ih

theorem blocks_map (o : LintOptions) (f : Category → Outcome) (cs : List Category) :
    blocks o cs (cs.map f) = cs.map fun c => c.starts o (f c).files (f c).status := by
  rw [blocks, List.zipWith_map_right, List.zipWith_self]

/-! ## 3. Requests

Selecting goes by names, and everything after it by categories. -/

section Requests

variable {r : Registry} {o : RunOptions} {names : List String}

/-- The same options, but all categories are wanted. -/
def RunOptions.forAll (o : RunOptions) : RunOptions := { o with categories := [] }

/-- The names of a request matter only for what they select. -/
theorem run_congr_select (h : r.select names = r.select o.categories) :
    (r.run { o with categories := names } : Action σ _) = r.run o := by
  unfold Registry.run
  rw [h]
  rfl

/-- A request of known names meets some category. -/
theorem exists_answering (hnames : names ≠ []) (hknown : ∀ n ∈ names, r.get? n ≠ none) :
    ∃ c ∈ r.categories, c.names.any names.contains = true := by
  obtain ⟨n, hn⟩ := List.exists_mem_of_ne_nil names hnames
  have hsome := hknown n hn
  rw [Ne, Registry.get?_eq_none_iff] at hsome
  push Not at hsome
  obtain ⟨c, hc, hnc⟩ := hsome
  exact ⟨c, hc, Registry.answers_iff.mpr ⟨n, hn, hnc⟩⟩

variable {selected selected' : List Category}

/-- What is selected matters to the listing only if it is nothing. -/
theorem changedGiven_congr (h : selected'.isEmpty = selected.isEmpty)
    (result : Except StartError Output) :
    r.changedGiven o selected' result = r.changedGiven o selected result := by
  unfold Registry.changedGiven
  rw [h]

theorem lead_congr (h : selected'.isEmpty = selected.isEmpty) :
    r.lead o selected' = r.lead o selected := by
  unfold Registry.lead
  rw [h]

end Requests

/-- **Categories do not interfere.**  With a runner that answers by the invocation alone, a run
over the categories of some known names has the outcomes, and after the listing the starts,
that a run over all categories has for these.  The order of the names, their repetition, and
which name of a category is given make no difference to a run. -/
theorem independence_law {sourceRoot : Path} {file : RegistryFile} {r : Registry}
    (hr : Registry.ofFile sourceRoot file = .ok r) (o : RunOptions) (hnames : o.categories ≠ [])
    (hknown : ∀ n ∈ o.categories, r.get? n ≠ none) (runner : Runner σ) (s : σ) (t : Tree)
    (reply : Invocation → Except StartError Output) (hsteady : runner.Steady t reply s)
    (full : Report) (hfull : ((r.run o.forAll).run runner s).value = .ok full) :
    full.outcomes.map Outcome.key = r.categories.map Category.key ∧
    ((r.run o.forAll).run runner s).started =
      r.lead o r.categories ++ (blocks o.lint r.categories full.outcomes).flatten ∧
    ((r.run o).run runner s).value = .ok ⟨answering o.categories r.categories full.outcomes⟩ ∧
    ((r.run o).run runner s).started = r.lead o r.categories ++
      (answering o.categories r.categories
        (blocks o.lint r.categories full.outcomes)).flatten ∧
    (∀ names, (∀ n, n ∈ names ↔ n ∈ o.categories) →
      (r.run { o with categories := names } : Action σ _) = r.run o) ∧
    ∀ before after c a, c ∈ r.categories → a ∈ c.aliases →
      o.categories = before ++ c.key :: after →
      (r.run { o with categories := before ++ a :: after } : Action σ _) = r.run o := by
  have hselect := Registry.select_eq_ok_of_known hnames hknown
  have hempty : (r.categories.filter fun c => c.names.any o.categories.contains).isEmpty =
      r.categories.isEmpty := by
    obtain ⟨c, hc, hanswers⟩ := exists_answering hnames hknown
    rw [List.isEmpty_eq_false_iff_exists_mem.mpr ⟨c, List.mem_filter.mpr ⟨hc, hanswers⟩⟩,
      List.isEmpty_eq_false_iff_exists_mem.mpr ⟨c, hc⟩]
  obtain ⟨_, changed, hall, hgiven, hxs, hstarted⟩ := completed_run hfull
  cases hall
  have hgiven' := (changedGiven_congr (o := o) hempty (r.listing runner s)).trans hgiven
  obtain ⟨hstarted', hvalue'⟩ := run_of_given hselect hgiven'
  rw [lead_congr hempty] at hstarted' hvalue'
  -- Both runs take their categories from the same state, one by one.
  have hlead := hsteady.after (r.lead o r.categories)
  have hrows := hxs.symm.trans (value_runCategories_of_steady hlead r.categories)
  rw [value_runCategories_of_steady hlead] at hstarted' hvalue'
  refine ⟨?_, hstarted, ?_, ?_, fun names hsame => ?_, fun before after c a hc ha hsplit => ?_⟩
  · rw [← hxs]
    exact keys_runCategories ..
  · rw [hrows, answering_map]
    exact hvalue'
  · rw [hrows, blocks_map, answering_map, hstarted', blocks_map]
    rfl
  · exact run_congr_select (Registry.select_of_same_names hnames hknown hsame)
  · refine run_congr_select ?_
    rw [hsplit] at hknown ⊢
    exact Registry.select_of_other_name (Registry.namesApart_of_ofFile hr) hc
      List.mem_cons_self (List.mem_cons_of_mem _ ha) hknown

namespace Example

/-- An entry for the files with an extension, which also goes by a longer name. -/
def entry (ext long : String) (mode : Mode) : CategoryEntry where
  key := ext
  aliases := [long]
  roots := ["."]
  extensions := [ext]
  mode
  tool := { program := ext ++ "lint" }

/-- Scripts one by one and modules at once. -/
def languages : RegistryFile where
  categories := [entry "js" "script" .perFile, entry "py" "module" .batch]

/-- Modules are faulty. -/
def faults : Script := [{ program := some "pylint", output := { code := 3 } }]

/-- A request by key and one by alias, next to a run over everything. -/
theorem independence_law_languages :
    ∃ r full, Registry.ofFile (.ofString "/src") languages = .ok r ∧
      ((r.run {}).run (scripted sources) faults).value = .ok full ∧
      ((r.run { categories := ["py"] }).run (scripted sources) faults).value =
        .ok ⟨answering ["py"] r.categories full.outcomes⟩ ∧
      (answering ["py"] r.categories full.outcomes).map Outcome.status =
        [.failed (.toolReported 3)] ∧
      (r.run { categories := ["module"] } : Action Script _) = r.run { categories := ["py"] } := by
  obtain ⟨r, hr⟩ : ∃ r, Registry.ofFile (.ofString "/src") languages = .ok r := ⟨_, rfl⟩
  obtain ⟨full, hfull⟩ : ∃ full, ((r.run {}).run (scripted sources) faults).value = .ok full := by
    cases hr
    exact ⟨_, rfl⟩
  have hknown : ∀ n ∈ ["py"], r.get? n ≠ none := by
    cases hr
    intro n hn
    rw [List.mem_singleton.mp hn]
    exact Option.some_ne_none _
  have huntimed : ∀ rule ∈ faults, rule.times = none := by simp [faults]
  have hsteady := Runner.steady_scripted sources huntimed
  obtain ⟨-, -, hvalue, -, -, hother⟩ := independence_law hr { categories := ["py"] }
    (List.cons_ne_nil _ _) hknown (scripted sources) faults sources _ hsteady full hfull
  refine ⟨r, full, hr, hfull, hvalue, ?_, ?_⟩
  · cases hr
    cases hfull
    decide
  · cases hr
    exact hother [] [] _ "module" (List.mem_cons_of_mem _ List.mem_cons_self)
      List.mem_cons_self rfl

end Example

end LintRun

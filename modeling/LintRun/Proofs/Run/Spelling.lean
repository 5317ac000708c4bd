import LintRun.Proofs.Registry.Spelling
import LintRun.Proofs.Run.Files

/-!
# Spelling does not matter to a run

In a registry whose paths are grounded, everything that a run looks at is grounded too: what
its categories reach, what screening keeps and removes, and the file arguments of its tools.
So the comparisons of paths by parts, which screening makes, are comparisons by bytes.

Of the output of the listing command a run makes use by the paths that the lines come to.  Two
runs with the same files, and replies that differ by the spelling of the listing alone, are the
same run (`run_of_respelled`).

What is grounded is preserved by each step that makes a path of another: the walk extends a
root by plain names, screening keeps or removes what the walk has found, and arguments are what
screening kept.  At the beginning are the paths of the registry, which are grounded because
they were read from the file by normal forms (`Registry.IsGrounded`).

For the second half nothing is followed through the run.  Both registries are equal, as values,
since their construction looks at normal forms only; and the two runs ask the same of replies
that mean the same, so one equation about what the listing command comes to is enough.
-/

namespace LintRun

variable {σ : Type}

/-! ## 1. Grounded files -/

section Grounded

variable {r : Registry} {c : Category} {changed : Option PathSet} {t : Tree} {p root : Path}

/-- What is reached from an absolute root is grounded: a walk adds names, and no dots. -/
theorem Tree.Reaches.isGrounded (h : t.Reaches root p) (habs : root.isAbsolute = true) :
    p.IsGrounded := by
  cases h with
  | file => exact Path.isGrounded_normalize habs
  | below => exact Path.isGrounded_normalize (Path.isAbsolute_extend habs _)

/-- **Candidates are grounded** if the roots of their category are. -/
theorem Registry.IsGrounded.candidate (h : r.IsGrounded) (hc : c ∈ r.categories)
    (hp : p ∈ c.candidates t) : p.IsGrounded := by
  obtain ⟨⟨root, hroot, hreach⟩, -⟩ := Tree.mem_collect_iff.mp hp
  exact hreach.isGrounded (h.roots c hc root hroot).isAbsolute

/-- What is handed on to the tools is grounded. -/
theorem Registry.IsGrounded.survivor (h : r.IsGrounded) (hc : c ∈ r.categories)
    (hp : p ∈ r.survivors changed c t) : p.IsGrounded :=
  h.candidate hc ((mem_survivors_iff r changed c).mp hp).1

/-- Screening removes nothing but candidates. -/
theorem Registry.IsGrounded.removed (h : r.IsGrounded) (hc : c ∈ r.categories) {e : Exclusion}
    (hp : (p, e) ∈ ((r.screen c changed).run t (c.candidates t)).removed) : p.IsGrounded := by
  have haccounts := Screen.run_accounts (t := t) (s := r.screen c changed)
    fun p (hp : p ∈ c.candidates t) => Tree.isNormal_of_mem_collect hp
  exact h.candidate hc ((haccounts.removed p e).mp hp).1

variable {o : RunOptions} {runner : Runner σ} {s : σ}

/-- **The files of a run** are grounded, whatever happens to the tree on the way. -/
theorem Registry.IsGrounded.outcome (h : r.IsGrounded) {report : Report}
    (hreport : ((r.run o).run runner s).value = .ok report) {x : Outcome}
    (hx : x ∈ report.outcomes) (hp : p ∈ x.files) : p.IsGrounded := by
  obtain ⟨selected, changed, hselect, -, hxs, -⟩ := completed_run hreport
  obtain ⟨k, hk⟩ := List.mem_iff_getElem?.mp hx
  obtain ⟨c, hc⟩ := category_of_outcome hxs hk
  rw [files_outcome hxs hc hk] at hp
  exact h.survivor ((select_sublist hselect).subset (List.mem_of_getElem? hc)) hp

/-- **What a run starts** besides the listing command is started over grounded files. -/
theorem Registry.IsGrounded.started (h : r.IsGrounded) {i : Invocation}
    (hi : i ∈ ((r.run o).run runner s).started) : i = r.vcs.invocation r.sourceRoot ∨
      ∃ c ∈ r.categories, ∃ files : List Path, (∀ p ∈ files, p.IsGrounded) ∧
        c.StartsOver o.lint.fix files i := by
  cases hselect : r.select o.categories with
  | error e =>
    rw [(run_of_unknown hselect).1] at hi
    exact absurd hi List.not_mem_nil
  | ok selected =>
    cases hgiven : r.changedGiven o selected (r.listing runner s) with
    | error e =>
      rw [(run_of_no_listing hselect hgiven).1] at hi
      exact .inl (eq_of_mem_lead r o selected hi)
    | ok changed =>
      obtain ⟨hstarted, hvalue⟩ := run_of_given hselect hgiven
      rw [hstarted] at hi
      rcases List.mem_append.mp hi with hi | hi
      · exact .inl (eq_of_mem_lead r o selected hi)
      · obtain ⟨c, hc, x, hx, files, hfiles, hstart⟩ := startsOver_of_mem_blocks hi
        exact .inr ⟨c, (select_sublist hselect).subset hc, files,
          fun p hp => h.outcome hvalue hx (hfiles hp), hstart⟩

end Grounded

/-! ## 2. Other spellings of a listing

Only standard output is spelled; the exit code and standard error have to agree, because
a listing that fails is reported with both. -/

/-- A result with the lines of standard output spelled in another way. -/
inductive Respells : Except StartError Output → Except StartError Output → Prop
  | error (e : StartError) : Respells (.error e) (.error e)
  | ok {output' output : Output} (code : output'.code = output.code)
      (stderr : output'.stderr = output.stderr)
      (lines : normalForms (textLines output'.stdout) = normalForms (textLines output.stdout)) :
      Respells (.ok output') (.ok output)

/-- **A listing means the same** in other spellings. -/
theorem Respells.changes {result' result : Except StartError Output} (h : Respells result' result)
    (command : ChangeCommand) (root : Path) :
    command.changes root result' = command.changes root result := by
  cases h with
  | error e => rfl
  | ok hcode hstderr hlines =>
    unfold ChangeCommand.changes Output.succeeded
    simp only [hcode, hstderr, changedPaths_congr hlines]

section Runs

variable {r : Registry} {o : RunOptions} {runner runner' : Runner σ} {s s' : σ} {t : Tree}
  {reply reply' : Invocation → Except StartError Output}

/-- After the listing a run starts tools and fixers. -/
theorem ne_listing_of_mem_runGiven {selected : List Category}
    {given : Except ChangeError (Option PathSet)} {i : Invocation}
    (h : i ∈ ((r.runGiven o selected given).run runner s).started) :
    i ≠ r.vcs.invocation r.sourceRoot := by
  cases given with
  | error e => exact absurd h List.not_mem_nil
  | ok changed =>
    rw [started_runGiven] at h
    obtain ⟨c, -, x, -, files, -, hstart⟩ := startsOver_of_mem_blocks h
    exact ne_listing_of_startsOver r hstart

/-- **A run with other spellings is the same run**: it gives and starts the same if the replies
are the same but for the spelling of the listing. -/
theorem run_of_respelled (h : runner.Steady t reply s) (h' : runner'.Steady t reply' s')
    (hsame : ∀ i, i ≠ r.vcs.invocation r.sourceRoot → reply' i = reply i)
    (hlisting : Respells (reply' (r.vcs.invocation r.sourceRoot))
      (reply (r.vcs.invocation r.sourceRoot))) :
    ((r.run o).run runner' s').value = ((r.run o).run runner s).value ∧
      ((r.run o).run runner' s').started = ((r.run o).run runner s).started := by
  cases hselect : r.select o.categories with
  | error e =>
    rw [(run_of_unknown hselect).1, (run_of_unknown hselect).2, (run_of_unknown hselect).1,
      (run_of_unknown hselect).2]
    exact ⟨rfl, rfl⟩
  | ok selected =>
    have hgiven : r.changedGiven o selected (r.listing runner' s') =
        r.changedGiven o selected (r.listing runner s) := by
      unfold Registry.changedGiven Registry.listing
      rw [h.result, h'.result, hlisting.changes]
    obtain ⟨hstarted, hvalue⟩ := run_of_selected runner s hselect
    obtain ⟨hstarted', hvalue'⟩ := run_of_selected runner' s' hselect
    rw [hgiven] at hstarted' hvalue'
    generalize r.changedGiven o selected (r.listing runner s) = given at *
    -- What is left of the run cannot tell the runners apart, as it never asks for a listing.
    have hagree : ∀ i ∈ ((r.runGiven o selected given).run runner
        (runner.after s (r.lead o selected))).started, reply' i = reply i :=
      fun i hi => hsame i (ne_listing_of_mem_runGiven hi)
    have halike := (h.after (r.lead o selected)).alike (h'.after (r.lead o selected)) hagree
    obtain ⟨hrest, hevents⟩ := (causal_runGiven r o selected given).alike halike
    exact ⟨hvalue'.trans (hrest.trans hvalue.symm), hstarted'.trans
      ((congrArg (_ ++ ·) (started_of_known hevents)).trans hstarted.symm)⟩

end Runs

/-! ## 3. The law -/

/-- **Spelling does not matter.**  With an absolute source root, the paths of the registry, of
every listing, every candidate, every file that screening keeps or removes, and every file
argument of a tool or a fixer are grounded, and on grounded paths to have the same parts is to
have the same bytes.  The registry and what a listing names are given by normal forms: another
spelling of the source root, of the paths in the file or of the lines of a listing makes no
difference to them, and with the same files and otherwise the same replies none to a run. -/
theorem spelling_law (sourceRoot : Path) (habs : sourceRoot.isAbsolute = true)
    (file : RegistryFile) :
    (∀ r, Registry.ofFile sourceRoot file = .ok r →
      r.IsGrounded ∧
      (∀ listing, ∀ p ∈ changedPaths r.sourceRoot listing, p.IsGrounded) ∧
      (∀ c ∈ r.categories, ∀ (t : Tree) (changed : Option PathSet),
        (∀ p ∈ c.candidates t, p.IsGrounded) ∧
        (∀ p ∈ ((r.screen c changed).run t (c.candidates t)).kept, p.IsGrounded) ∧
        ∀ p e, (p, e) ∈ ((r.screen c changed).run t (c.candidates t)).removed → p.IsGrounded) ∧
      ∀ (o : RunOptions) (runner : Runner σ) (s : σ),
        (∀ report, ((r.run o).run runner s).value = .ok report →
          ∀ x ∈ report.outcomes, ∀ p ∈ x.files, p.IsGrounded) ∧
        ∀ i ∈ ((r.run o).run runner s).started, i = r.vcs.invocation r.sourceRoot ∨
          ∃ c ∈ r.categories, ∃ files : List Path, (∀ p ∈ files, p.IsGrounded) ∧
            c.StartsOver o.lint.fix files i) ∧
    (∀ p q : Path, p.IsGrounded → q.IsGrounded → (p.parts = q.parts ↔ p.bytes = q.bytes)) ∧
    (∀ (root : Path) (listing listing' : String),
      normalForms (textLines listing') = normalForms (textLines listing) →
      changedPaths root listing' = changedPaths root listing) ∧
    ∀ (sourceRoot' : Path) (file' : RegistryFile),
      sourceRoot'.normalize = sourceRoot.normalize → file'.Respells file →
      Registry.ofFile sourceRoot' file' = Registry.ofFile sourceRoot file ∧
      ∀ r r', Registry.ofFile sourceRoot file = .ok r → Registry.ofFile sourceRoot' file' = .ok r' →
        ∀ (o : RunOptions) (t : Tree) (runner runner' : Runner σ) (s s' : σ)
          (reply reply' : Invocation → Except StartError Output),
          runner.Steady t reply s → runner'.Steady t reply' s' →
          (∀ i, i ≠ r.vcs.invocation r.sourceRoot → reply' i = reply i) →
          Respells (reply' (r.vcs.invocation r.sourceRoot))
            (reply (r.vcs.invocation r.sourceRoot)) →
          ((r'.run o).run runner' s').value = ((r.run o).run runner s).value ∧
            ((r'.run o).run runner' s').started = ((r.run o).run runner s).started := by
  refine ⟨fun r hr => ?_, fun p q hp hq => hp.parts_eq_iff hq,
    fun root listing listing' hlines => changedPaths_congr hlines root,
    fun sourceRoot' file' hroot hfile => ?_⟩
  · have hgrounded := Registry.isGrounded_of_ofFile habs hr
    refine ⟨hgrounded, fun listing p hp => ?_, fun c hc t changed => ⟨fun p => ?_, fun p => ?_,
      fun p e => ?_⟩, fun o runner s => ⟨fun report hreport x hx p hp => ?_, fun i hi => ?_⟩⟩
    · exact isGrounded_of_mem_changedPaths hgrounded.sourceRoot.isAbsolute hp
    · exact hgrounded.candidate hc
    · exact hgrounded.survivor hc
    · exact hgrounded.removed hc
    · exact hgrounded.outcome hreport hx hp
    · exact hgrounded.started hi
  · have hsame := Registry.ofFile_congr hroot hfile
    refine ⟨hsame, fun r r' hr hr' o t runner runner' s s' reply reply' h h' hagree hlisting => ?_⟩
    cases hr'.symm.trans (hsame.trans hr)
    exact run_of_respelled h h' hagree hlisting

namespace Example

/-- The files with an extension under a root, but for those under another and a listed one. -/
def guarded (root ignoreRoot listed : String) : RegistryFile where
  blacklist := [listed]
  categories := [{
    key := "js"
    roots := [root]
    ignoreRoots := [ignoreRoot]
    extensions := ["js"]
    tool := { program := "jslint" } }]

/-- A listing, and silence otherwise. -/
def listingAs (text : String) (i : Invocation) : Except StartError Output :=
  if i = ChangeCommand.standard.invocation (.ofString "/") then .ok { stdout := text } else .ok {}

/-- Two spellings of one registry, with two spellings of a listing: one registry, one report.
-/
theorem spelling_law_sources :
    ∃ r report,
      Registry.ofFile (.ofString "/") (guarded "src" "src/old" "src/b.js") = .ok r ∧
      Registry.ofFile (.ofString "//x/..") (guarded "./src/" "src//old" "src/x/../b.js") = .ok r ∧
      ((r.run { changedOnly := true }).run
        (.replying sources (listingAs "src/a.js\nsrc/b.js\n")) ()).value = .ok report ∧
      ((r.run { changedOnly := true }).run
        (.replying sources (listingAs "./src/a.js\nsrc//b.js\n")) ()).value = .ok report ∧
      ∃ x, report.outcomes[0]? = some x ∧ x.files = [.ofString "/src/a.js"] ∧
        ∀ p ∈ x.files, p.IsGrounded := by
  obtain ⟨hgrounded, -, -, hrespelled⟩ := spelling_law (.ofString "/") rfl
    (guarded "src" "src/old" "src/b.js")
  obtain ⟨r, hr⟩ : ∃ r,
      Registry.ofFile (.ofString "/") (guarded "src" "src/old" "src/b.js") = .ok r := ⟨_, rfl⟩
  obtain ⟨hsame, hruns⟩ := hrespelled (.ofString "//x/..")
    (guarded "./src/" "src//old" "src/x/../b.js") (by decide)
    ⟨by decide, rfl, .cons ⟨by decide, by decide, rfl⟩ .nil⟩
  have hvcs : r.vcs.invocation r.sourceRoot =
      ChangeCommand.standard.invocation (.ofString "/") := by
    cases hr
    decide
  obtain ⟨report, hreport⟩ : ∃ report, ((r.run { changedOnly := true }).run
      (.replying sources (listingAs "src/a.js\nsrc/b.js\n")) ()).value = .ok report := by
    cases hr
    exact ⟨_, rfl⟩
  have hagree (text text' : String) (i : Invocation)
      (hi : i ≠ r.vcs.invocation r.sourceRoot) : listingAs text' i = listingAs text i := by
    rw [hvcs] at hi
    rw [listingAs, listingAs, if_neg hi, if_neg hi]
  have hlisting : Respells
      (listingAs "./src/a.js\nsrc//b.js\n" (r.vcs.invocation r.sourceRoot))
      (listingAs "src/a.js\nsrc/b.js\n" (r.vcs.invocation r.sourceRoot)) := by
    rw [hvcs, listingAs, listingAs, if_pos rfl, if_pos rfl]
    exact .ok rfl rfl (by decide)
  obtain ⟨hvalue, -⟩ := hruns r r hr (hsame.trans hr) { changedOnly := true } sources _ _ () ()
    _ _ (Runner.steady_replying _ _) (Runner.steady_replying _ _) (hagree _ _) hlisting
  obtain ⟨-, -, -, hfiles⟩ := hgrounded r hr
  have hground := (hfiles _ _ _).1 report hreport
  refine ⟨r, report, hr, hsame.trans hr, hreport, hvalue.trans hreport, ?_⟩
  cases hr
  cases hreport
  exact ⟨_, rfl, by decide, hground _ List.mem_cons_self⟩

end Example

end LintRun

import LintRun.Proofs.Changed.Bytes
import LintRun.Proofs.Process.Host
import LintRun.Proofs.Registry.Selection
import LintRun.Proofs.Run.Restriction

/-!
# Printed files that a run goes by

On a host the listing of changed files is what a process printed, read as text
(`Host.listing_eq`).  A file of a full run that is printed byte by byte is then a file of the run
that goes by the listing exactly if its path below the source root is text (`printed_law`).
A printed file whose path is no text is counted as not changed, without an error and without a
word: the listing replaces what is no text in the line, and what comes of it is another path
(`Example.printed_skipped`).

Two facts meet.  A path that is printed in full is named by the listing exactly if it is text
(`has_changedPaths_iff`): the line is read as text, with a replacement for what is none, and no
line that is text leads to a path that is none.  And restricting a run to a set keeps of each
category the files in the set (`Outcome.Restricts`), counting the others as not changed.  The
full run is one by itself, which does not start the listing, so that the two runs need to find
the same tree for their files to be compared.
-/

namespace LintRun

variable {σ : Type}

/-! ## 1. Listings on a host

A host tells what a process wrote as bytes; the program has it as text. -/

section Listings

variable {host : Host σ} {r : Registry} {s : σ} {written : Streams}

/-- **The listing** of a command that was successful is what it printed, read as text. -/
theorem Host.listing_eq
    (h : (host.spawn (r.vcs.invocation r.sourceRoot) s).1 = .ok (.exited 0, written)) :
    ∃ output, r.listing host.runner s = .ok output ∧ output.code = 0 ∧
      output.stdout = Utf8.decodeLossy written.out := by
  show ∃ output, (Host.reply _ (host.spawn (r.vcs.invocation r.sourceRoot) s).1).result = _ ∧ _
  rw [h]
  exact ⟨_, rfl, rfl, rfl⟩

theorem isNormal_sourceRoot {sourceRoot : Path} {file : RegistryFile}
    (hr : Registry.ofFile sourceRoot file = .ok r) : r.sourceRoot.IsNormal := by
  obtain ⟨-, hroot, -⟩ := Registry.ofFile_eq_ok_iff.mp hr
  rw [hroot]
  exact Path.isNormal_normalize sourceRoot

/-- A listing on which a file is printed is not empty. -/
theorem changedPaths_ne_empty {root rel : Path} (h : rel.bytes ∈ byteLines written.out) :
    changedPaths root (Utf8.decodeLossy written.out) ≠ .empty := by
  intro hempty
  have hmem : root.resolve (.ofString (Utf8.decodeLossy rel.bytes)) ∈
      changedPaths root (Utf8.decodeLossy written.out) := by
    refine mem_changedPaths.mpr ⟨_, ?_, rfl⟩
    rw [textLines_decodeLossy]
    exact List.mem_map_of_mem h
  rw [hempty] at hmem
  exact Ascending.not_mem_empty hmem

/-- What a restricted outcome has of a file that is printed. -/
theorem Outcome.Restricts.printed {root p rel : Path} {x y : Outcome}
    (h : x.Restricts y (changedPaths root (Utf8.decodeLossy written.out)))
    (hroot : root.IsNormal) (hp : p.IsNormal) (hfile : p ∈ y.files)
    (hbelow : p.below? root = some rel) (hprinted : rel.bytes ∈ byteLines written.out) :
    (p ∈ x.files ↔ Utf8.isValid rel.bytes = true) ∧
      (Utf8.isValid rel.bytes = false → 0 < x.excludedBy .notChanged) := by
  have hnamed := has_changedPaths_iff hroot hp hbelow hprinted
  constructor
  · rw [h.files, List.mem_filter, and_iff_right hfile]
    exact hnamed
  · intro hinvalid
    rw [h.notChanged (changedPaths_ne_empty hprinted)]
    refine List.length_pos_of_mem (List.mem_filter.mpr ⟨hfile, ?_⟩)
    rw [Bool.not_eq_true', Bool.eq_false_iff, Ne, hnamed, hinvalid]
    exact Bool.false_ne_true

end Listings

/-! ## 2. Whole runs

Two runs, one with the listing and one without, of which the first has one start more in front.
-/

/-- The tree that a run finds before the block of its category at `k`. -/
def Registry.treeAt (r : Registry) (o : RunOptions) (selected : List Category)
    (xs : List Outcome) (runner : Runner σ) (s : σ) (k : Nat) : Tree :=
  runner.files (runner.after s
    (r.lead o selected ++ ((blocks o.lint selected xs).take k).flatten))

/-- **A run completes with a report**, and the files of each outcome are what the tool of its
category was given. -/
structure Registry.Completes (r : Registry) (o : RunOptions) (selected : List Category)
    (runner : Runner σ) (s : σ) (report : Report) : Prop where
  value : ((r.run o).run runner s).value = .ok report
  started : ((r.run o).run runner s).started =
    r.lead o selected ++ (blocks o.lint selected report.outcomes).flatten
  given : ∀ (k : Nat) (c : Category) (x : Outcome), selected[k]? = some c →
    report.outcomes[k]? = some x →
    (blocks o.lint selected report.outcomes)[k]? = some
      (c.toolStarts o.lint.fix x.files ++ c.fixerStarts o.lint x.files x.status) ∧
    c.fileArguments o.lint.fix (c.toolStarts o.lint.fix x.files) = x.files.map Path.bytes

/-- A run that has something to go by completes. -/
theorem completes_of_given {r : Registry} {o : RunOptions} {selected : List Category}
    {runner : Runner σ} {s : σ} {changed : Option PathSet}
    (hselect : r.select o.categories = .ok selected)
    (hgiven : r.changedGiven o selected (r.listing runner s) = .ok changed) :
    r.Completes o selected runner s ⟨((r.runCategories o.lint changed selected).run runner
      (runner.after s (r.lead o selected))).value⟩ := by
  obtain ⟨hstarted, hvalue⟩ := run_of_given hselect hgiven
  refine ⟨hvalue, hstarted, fun k c x hc hx => ?_⟩
  exact ⟨getElem?_blocks hc hx, fileArguments_toolStarts ..⟩

/-- **Printed files.**  The listing command is successful.  Then both the run that goes by the
changed files and the full run complete, and where they find the same tree, of the files of the
full run which the command printed as they lead on from the source root, the other run hands on
exactly those that are text.  It counts the others as not changed. -/
theorem printed_law {sourceRoot : Path} {file : RegistryFile} {r : Registry}
    (hr : Registry.ofFile sourceRoot file = .ok r) (o : RunOptions) (honly : o.changedOnly = true)
    (selected : List Category) (hselect : r.select o.categories = .ok selected) (host : Host σ)
    (s : σ) (written : Streams)
    (hlisting : (host.spawn (r.vcs.invocation r.sourceRoot) s).1 = .ok (.exited 0, written)) :
    ∃ report full,
      r.Completes o selected host.runner s report ∧
      r.Completes o.unrestricted selected host.runner s full ∧
      ∀ (k : Nat) (c : Category) (x y : Outcome), selected[k]? = some c →
        report.outcomes[k]? = some x → full.outcomes[k]? = some y →
        r.treeAt o selected report.outcomes host.runner s k =
          r.treeAt o.unrestricted selected full.outcomes host.runner s k →
        ∀ p ∈ y.files, ∀ rel, p.below? r.sourceRoot = some rel →
          rel.bytes ∈ byteLines written.out →
          (p ∈ x.files ↔ Utf8.isValid rel.bytes = true) ∧
            (Utf8.isValid rel.bytes = false → 0 < x.excludedBy .notChanged) := by
  obtain ⟨output, hlisted, hcode, hstdout⟩ := Host.listing_eq hlisting
  have hreport :=
    completes_of_given hselect (changedGiven_of_listed honly ⟨output, hlisted, hcode, rfl⟩)
  rw [hstdout] at hreport
  have hgiven : r.changedGiven o.unrestricted selected (r.listing host.runner s) = .ok none :=
    changedGiven_unrestricted _
  have hfull := completes_of_given (o := o.unrestricted) hselect hgiven
  refine ⟨_, _, hreport, hfull, fun k c x y hc hx hy htree p hp rel hbelow hprinted => ?_⟩
  have hselected : selected ≠ [] := List.ne_nil_of_mem (List.mem_of_getElem? hc)
  rw [if_neg (by simpa using hselected)] at hx htree
  have hxc := outcome_eq rfl hc hx
  have hyc := outcome_eq (o := o.unrestricted) rfl hc hy
  have hrestricts : x.Restricts y
      (changedPaths r.sourceRoot (Utf8.decodeLossy written.out)) := by
    rw [hxc, hyc]
    exact runCategory_restricts o.lint htree rfl
  have hnormal : p.IsNormal := by
    rw [hyc, files_runCategory, mem_survivors_iff] at hp
    exact Tree.isNormal_of_mem_collect hp.1
  exact hrestricts.printed (isNormal_sourceRoot hr) hnormal hp hbelow hprinted

namespace Example

/-- The bytes of a name that is written in Latin-1. -/
def latinName : Name := Utf8.encode "caf" ++ [0xE9]

/-- Two scripts below a source root, one of them in a directory with a name in Latin-1. -/
def latin : Tree where
  root := .directory (Utf8.encode "src")
    (.directory (Utf8.encode "lib")
      (.file (Utf8.encode "a.js") {} <|
        .directory latinName (.file (Utf8.encode "x.js") {} .empty) .empty) .empty)
    .empty

/-- The scripts of a library. -/
def library : RegistryFile where
  categories := [{
    key := "js"
    roots := ["lib"]
    extensions := ["js"]
    tool := { program := "jslint" } }]

/-- A host on which every process is successful, and prints something if it is listened to. -/
def printing (t : Tree) (out : List UInt8) : Host Unit where
  spawn i _ := (.ok (.exited 0, { out := if i.capturesOutput then out else [] }), ())
  files _ := t

/-- What leads from the source root to the second script. -/
def latinScript : Path :=
  ⟨Utf8.encode "lib/" ++ latinName ++ Utf8.encode "/x.js"⟩

/-- Both scripts are printed, one to a line. -/
def latinListing : List UInt8 := Utf8.encode "lib/a.js\n" ++ latinScript.bytes ++ [10]

/-- Of two printed files one is text and the other is not. -/
theorem printed_law_latin :
    ∃ r, Registry.ofFile (.ofString "/src") library = .ok r ∧
      (((printing latin latinListing).spawn (r.vcs.invocation r.sourceRoot) ()).1 =
        .ok (.exited 0, { out := latinListing })) ∧
      ∃ report x,
        ((r.run { changedOnly := true }).run (printing latin latinListing).runner ()).value =
          .ok report ∧
        report.outcomes = [x] ∧ .ofString "/src/lib/a.js" ∈ x.files ∧
        (Path.ofString "/src").join latinScript ∉ x.files ∧ 0 < x.excludedBy .notChanged := by
  obtain ⟨r, hr⟩ : ∃ r, Registry.ofFile (.ofString "/src") library = .ok r := ⟨_, rfl⟩
  have hlisting : ((printing latin latinListing).spawn (r.vcs.invocation r.sourceRoot) ()).1 =
      .ok (.exited 0, { out := latinListing }) := rfl
  obtain ⟨report, full, hreport, hfull, hlaw⟩ := printed_law hr { changedOnly := true } rfl
    r.categories rfl (printing latin latinListing) () _ hlisting
  have htree (o : RunOptions) (xs : List Outcome) :
      r.treeAt o r.categories xs (printing latin latinListing).runner () 0 = latin := rfl
  refine ⟨r, hr, hlisting, ?_⟩
  cases hr
  cases hreport.value
  cases hfull.value
  have hprinted := hlaw 0 _ _ _ rfl rfl rfl ((htree _ _).trans (htree _ _).symm)
  obtain ⟨hplain, -⟩ := hprinted (.ofString "/src/lib/a.js") (by decide)
    (.ofString "lib/a.js") (by decide) (by decide)
  obtain ⟨hforeign, hcounted⟩ := hprinted ((Path.ofString "/src").join latinScript) (by decide)
    latinScript (by decide) (by decide)
  refine ⟨_, _, rfl, rfl, hplain.mpr (by decide), fun hmem => ?_, hcounted (by decide)⟩
  exact absurd (hforeign.mp hmem) (by decide)

/-- **A changed file is skipped**: it is printed in full, and a full run hands it on, but the run
that goes by the changed files does not, and is successful. -/
theorem printed_skipped :
    ∃ r, Registry.ofFile (.ofString "/src") library = .ok r ∧
      ∃ report full,
        ((r.run { changedOnly := true }).run (printing latin latinListing).runner ()).value =
          .ok report ∧
        ((r.run {}).run (printing latin latinListing).runner ()).value = .ok full ∧
        ∃ x y, report.outcomes = [x] ∧ full.outcomes = [y] ∧
          ∃ p ∈ y.files, p.below? r.sourceRoot = some latinScript ∧
            latinScript.bytes ∈ byteLines latinListing ∧
            p ∉ x.files ∧ x.status = .clean ∧ report.exitCode = 0 := by
  obtain ⟨r, hr⟩ : ∃ r, Registry.ofFile (.ofString "/src") library = .ok r := ⟨_, rfl⟩
  refine ⟨r, hr, ?_⟩
  obtain ⟨report, hreport⟩ : ∃ report, ((r.run { changedOnly := true }).run
      (printing latin latinListing).runner ()).value = .ok report := by
    cases hr
    exact ⟨_, rfl⟩
  obtain ⟨full, hfull⟩ : ∃ full, ((r.run {}).run
      (printing latin latinListing).runner ()).value = .ok full := by
    cases hr
    exact ⟨_, rfl⟩
  refine ⟨report, full, hreport, hfull, ?_⟩
  cases hr
  cases hreport
  cases hfull
  refine ⟨_, _, rfl, rfl, (Path.ofString "/src").join latinScript, ?_⟩
  decide

end Example

end LintRun

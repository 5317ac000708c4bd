import LintRun.Proofs.Run.Accounting
import LintRun.Proofs.Run.Asking
import LintRun.Proofs.Run.Files

/-!
# What a tool finds, and when the fixer is called

The result of starting a tool over one file says what is wrong with it: nothing if the tool ran
and its code is zero, and otherwise one problem, of a kind that the result alone decides
(`Tool.problemIn_cases`).  Linting files one by one puts these together without a loss
(`classification_law`): no file is passed over because of what came of another.

A status calls for the fixer exactly if some start of the tool found something
(`isFixable_statusGiven`), however its results are spread over the files.  The fixer runs last
and over all files, and the status is settled before it does (`fixer_law`).

Everything comes from the row of results.  The status of a category is a function of it
(`status_lint`), and files and results are paired by their positions.  As a file is not listed
twice, its position can be told from it; so a problem in the status can be traced to one
result, which is what "its own start" means in the law.

For the fixer the two modes are put side by side: over all files at once the status is fixable
if the one result is a code that is not zero; one by one, if some problem is a finding; and
both say that there is such a result in the row.  Since the status is settled before the fixer
starts, nothing that the fixer replies has a part in it; the law says so by comparing with any
other runner that gives the tool the same results.
-/

namespace LintRun

variable {σ : Type}

/-! ## 1. One result

Zero is tried first, so a tool whose code for formatting is zero never finds that formatting is
needed. -/

section Results

variable {t : Tool} {result : Except StartError Output}

/-- **What a result says of a file**: the tool could not be started, or its code decides, zero
before any other. -/
theorem Tool.problemIn_cases (t : Tool) (result : Except StartError Output) :
    (∃ e, result = .error e ∧ t.problemIn result = some (.notStarted e.message)) ∨
    ∃ output, result = .ok output ∧
      (output.code = 0 ∧ t.problemIn result = none ∨
        output.code ≠ 0 ∧ t.needsFormatCode = some output.code ∧
          t.problemIn result = some .needsFormatting ∨
        output.code ≠ 0 ∧ t.needsFormatCode ≠ some output.code ∧
          t.problemIn result = some (.exitCode output.code)) := by
  cases result with
  | error e => exact .inl ⟨e, rfl, rfl⟩
  | ok output =>
    refine .inr ⟨output, rfl, ?_⟩
    simp only [problemIn, problemOf]
    by_cases hzero : output.code = 0
    · exact .inl ⟨hzero, if_pos hzero⟩
    · by_cases hformat : t.needsFormatCode = some output.code
      · exact .inr (.inl ⟨hzero, hformat, by rw [if_neg hzero, if_pos hformat]⟩)
      · exact .inr (.inr ⟨hzero, hformat, by rw [if_neg hzero, if_neg hformat]⟩)

/-- **Nothing is wrong** exactly if the tool ran and its code is zero. -/
theorem Tool.problemIn_eq_none_iff :
    t.problemIn result = none ↔ ∃ output, result = .ok output ∧ output.code = 0 := by
  have hcases := t.problemIn_cases result
  grind

theorem Tool.problemIn_eq_needsFormatting_iff :
    t.problemIn result = some .needsFormatting ↔
      ∃ output, result = .ok output ∧ output.code ≠ 0 ∧ t.needsFormatCode = some output.code := by
  have hcases := t.problemIn_cases result
  grind

theorem Tool.problemIn_eq_exitCode_iff {code : Int} :
    t.problemIn result = some (.exitCode code) ↔
      ∃ output, result = .ok output ∧ output.code = code ∧ code ≠ 0 ∧
        t.needsFormatCode ≠ some code := by
  have hcases := t.problemIn_cases result
  grind

theorem Tool.problemIn_eq_notStarted_iff {message : String} :
    t.problemIn result = some (.notStarted message) ↔
      ∃ e, result = .error e ∧ e.message = message := by
  have hcases := t.problemIn_cases result
  grind

/-- A problem is a finding exactly if the tool ran and its code is not zero. -/
theorem Tool.exists_finding_iff :
    (∃ p, t.problemIn result = some p ∧ p.isFinding = true) ↔
      ∃ output, result = .ok output ∧ output.code ≠ 0 := by
  rcases t.problemIn_cases result with ⟨e, rfl, hproblem⟩ |
    ⟨output, rfl, ⟨hcode, hproblem⟩ | ⟨hcode, -, hproblem⟩ | ⟨hcode, -, hproblem⟩⟩
  · simp [hproblem, Problem.isFinding]
  · simp [hproblem, hcode]
  · simp [hproblem, hcode, Problem.isFinding]
  · simp [hproblem, hcode, Problem.isFinding]

end Results

/-! ## 2. Files one by one

A list of pairs is selected from and mapped, which keeps the order of files. -/

section Files

variable {t : Tool} {files : List Path} {results : List (Except StartError Output)}

/-- A problem comes from the result at the position of its file. -/
theorem Tool.mem_problemsGiven {file : Path} {p : Problem} :
    (file, p) ∈ t.problemsGiven files results ↔
      ∃ result, (file, result) ∈ files.zip results ∧ t.problemIn result = some p := by
  simp only [problemsGiven, List.mem_filterMap, Prod.exists, Option.map_eq_some_iff,
    Prod.mk.injEq]
  constructor
  · rintro ⟨file, result, hmem, p, hp, rfl, rfl⟩
    exact ⟨result, hmem, hp⟩
  · rintro ⟨result, hmem, hp⟩
    exact ⟨file, result, hmem, p, hp, rfl, rfl⟩

/-- Every result belongs to some file. -/
theorem exists_mem_zip {result : Except StartError Output} (h : result ∈ results)
    (hlength : results.length = files.length) : ∃ file, (file, result) ∈ files.zip results := by
  have hsnd : (files.zip results).map Prod.snd = results := List.map_snd_zip hlength.le
  rw [← hsnd] at h
  obtain ⟨⟨file, _⟩, hmem, rfl⟩ := List.mem_map.mp h
  exact ⟨file, hmem⟩

/-- **The problem of a file** is that of its own result, as no file is there twice. -/
theorem Tool.mem_problemsGiven_iff (hnodup : files.Nodup) {k : Nat} {file : Path}
    {result : Except StartError Output} (hfile : files[k]? = some file)
    (hresult : results[k]? = some result) {p : Problem} :
    (file, p) ∈ t.problemsGiven files results ↔ t.problemIn result = some p := by
  rw [mem_problemsGiven]
  constructor
  · rintro ⟨other, hmem, hp⟩
    obtain ⟨j, hj⟩ := List.mem_iff_getElem?.mp hmem
    obtain ⟨hfile', hother⟩ := List.getElem?_zip_eq_some.mp hj
    obtain ⟨hk, -⟩ := List.getElem?_eq_some_iff.mp hfile
    have hsame : k = j := (List.getElem?_inj hk hnodup).mp (hfile.trans hfile'.symm)
    rw [← hsame, hresult] at hother
    cases hother
    exact hp
  · intro hp
    have hk : (files.zip results)[k]? = some (file, result) :=
      List.getElem?_zip_eq_some.mpr ⟨hfile, hresult⟩
    exact ⟨result, List.mem_of_getElem? hk, hp⟩

/-- **A file has a problem** exactly if its own start did not run or found something. -/
theorem Tool.mem_map_problemsGiven_iff (hnodup : files.Nodup) {k : Nat} {file : Path}
    {result : Except StartError Output} (hfile : files[k]? = some file)
    (hresult : results[k]? = some result) :
    file ∈ (t.problemsGiven files results).map Prod.fst ↔
      ¬∃ output, result = .ok output ∧ output.code = 0 := by
  rw [← t.problemIn_eq_none_iff, ← ne_eq, Option.ne_none_iff_exists', List.mem_map]
  constructor
  · rintro ⟨⟨_, p⟩, hmem, rfl⟩
    exact ⟨p, (mem_problemsGiven_iff hnodup hfile hresult).mp hmem⟩
  · rintro ⟨p, hp⟩
    exact ⟨(file, p), (mem_problemsGiven_iff hnodup hfile hresult).mpr hp, rfl⟩

/-- **There are no problems** exactly if nothing is wrong with any file. -/
theorem Tool.problemsGiven_eq_nil_iff (hlength : results.length = files.length) :
    t.problemsGiven files results = [] ↔
      ∀ result ∈ results, ∃ output, result = .ok output ∧ output.code = 0 := by
  constructor
  · intro hnil result hmem
    obtain ⟨file, hzip⟩ := exists_mem_zip hmem hlength
    rw [← t.problemIn_eq_none_iff, Option.eq_none_iff_forall_ne_some]
    intro p hp
    have hproblem : (file, p) ∈ t.problemsGiven files results :=
      mem_problemsGiven.mpr ⟨result, hzip, hp⟩
    rw [hnil] at hproblem
    exact List.not_mem_nil hproblem
  · intro hfine
    refine List.eq_nil_iff_forall_not_mem.mpr ?_
    rintro ⟨file, p⟩ hmem
    obtain ⟨result, hzip, hp⟩ := mem_problemsGiven.mp hmem
    rw [problemIn_eq_none_iff.mpr (hfine result (List.of_mem_zip hzip).2)] at hp
    cases hp

/-- Without problems the status is clean. -/
theorem statusOfProblems_eq_clean_iff {problems : List (Path × Problem)} :
    statusOfProblems problems = .clean ↔ problems = [] := by
  cases problems with
  | nil => exact ⟨fun _ => rfl, fun _ => rfl⟩
  | cons entry problems => exact ⟨nofun, nofun⟩

theorem statusOfProblems_of_ne_nil {problems : List (Path × Problem)} (h : problems ≠ []) :
    statusOfProblems problems = .failed (.files problems) := by
  cases problems with
  | nil => exact absurd rfl h
  | cons entry problems => rfl

/-- The status of linting files one by one is that of their problems. -/
theorem value_runTool_of_perFile {c : Category} (hmode : c.mode = .perFile) (fix : Bool)
    (files : List Path) (runner : Runner σ) (s : σ) :
    ((runTool c fix files).run runner s).value =
      statusOfProblems (c.tool.problemsGiven files
        (runner.results s (files.map fun file => c.tool.invocation fix [file]))) := by
  have hinvocations : (files.map (c.fileQuestion fix)).map Question.invocation =
      files.map fun file => c.tool.invocation fix [file] := List.map_map
  rw [runTool, hmode, ← hinvocations, ← Action.value_ask]
  show ((lintFiles c fix files >>= fun problems =>
    pure (statusOfProblems problems)).run runner s).value = _
  rw [lintFiles_eq_ask]
  rfl

end Files

/-- **Linting files one by one passes over none.**  Whatever comes of a file, the tool is started
once over each, in order.  The status is clean exactly if every start ran and has code zero.
Otherwise the problems are listed in the order of the files, each file once at most, and a file
is among them exactly if its own start did not run or has another code: it needs formatting if
the code is the one for that, and has an exit code otherwise, or else the tool could not be
started. -/
theorem classification_law (c : Category) (hmode : c.mode = .perFile) (fix : Bool)
    (files : PathSet) (runner : Runner σ) (s : σ) :
    ∃ starts results, starts = files.toList.map (fun file => c.tool.invocation fix [file]) ∧
      results = runner.results s starts ∧ results.length = files.toList.length ∧
      ((runTool c fix files.toList).run runner s).started = starts ∧
      (((runTool c fix files.toList).run runner s).value = .clean ↔
        ∀ result ∈ results, ∃ output, result = .ok output ∧ output.code = 0) ∧
      (((runTool c fix files.toList).run runner s).value ≠ .clean →
        ∃ problems,
          ((runTool c fix files.toList).run runner s).value = .failed (.files problems) ∧
          (problems.map Prod.fst).Pairwise (fun p q => p.key < q.key) ∧
          (∀ file ∈ problems.map Prod.fst, file ∈ files.toList) ∧
          ∀ (k : Nat) (file : Path) (result : Except StartError Output),
            files.toList[k]? = some file → results[k]? = some result →
            (file ∈ problems.map Prod.fst ↔ ¬∃ output, result = .ok output ∧ output.code = 0) ∧
            ((file, .needsFormatting) ∈ problems ↔ ∃ output, result = .ok output ∧
              output.code ≠ 0 ∧ c.tool.needsFormatCode = some output.code) ∧
            (∀ code, (file, .exitCode code) ∈ problems ↔ ∃ output, result = .ok output ∧
              output.code = code ∧ code ≠ 0 ∧ c.tool.needsFormatCode ≠ some code) ∧
            (∀ message, (file, .notStarted message) ∈ problems ↔
              ∃ e, result = .error e ∧ e.message = message)) := by
  have hlength : (runner.results s
      (files.toList.map fun file => c.tool.invocation fix [file])).length =
      files.toList.length := by
    rw [Runner.length_results, List.length_map]
  have hvalue := value_runTool_of_perFile hmode fix files.toList runner s
  refine ⟨_, _, rfl, rfl, hlength, ?_, ?_, fun hfailed => ?_⟩
  · rw [runTool, hmode]
    show ((lintFiles c fix files.toList >>= fun _ => pure _).run runner s).started = _
    rw [Action.started_bind, started_lintFiles, Action.started_pure, List.append_nil]
  · rw [hvalue, statusOfProblems_eq_clean_iff, Tool.problemsGiven_eq_nil_iff hlength]
  · rw [hvalue, ne_eq, statusOfProblems_eq_clean_iff] at hfailed
    rw [statusOfProblems_of_ne_nil hfailed] at hvalue
    obtain ⟨-, hsub⟩ := problems_runTool c fix runner s hvalue
    refine ⟨_, hvalue, files.ascending.sublist hsub, fun file hfile => hsub.subset hfile, ?_⟩
    intro k file result hfile hresult
    have hproblem (p : Problem) := c.tool.mem_problemsGiven_iff files.nodup_toList hfile hresult
      (p := p)
    refine ⟨c.tool.mem_map_problemsGiven_iff files.nodup_toList hfile hresult, ?_, fun code => ?_,
      fun message => ?_⟩
    · rw [hproblem, Tool.problemIn_eq_needsFormatting_iff]
    · rw [hproblem, Tool.problemIn_eq_exitCode_iff]
    · rw [hproblem, Tool.problemIn_eq_notStarted_iff]

namespace Example

/-- A fixer with arguments of its own. -/
def scriptFixer : Tool where
  program := "jsfix"
  arguments := ["-i"]
  fixArguments := ["--now"]

/-- Scripts one by one; the tool has a code for those that need formatting. -/
def formattedScripts : Category :=
  { category "js" .perFile (some scriptFixer) with
    tool.needsFormatCode := some 2 }

/-- Four scripts. -/
def scriptFiles : PathSet :=
  .ofList (["/src/d.js", "/src/b.js", "/src/a.js", "/src/c.js"].map .ofString)

/-- The first script cannot be linted, the second needs formatting, and the third is faulty. -/
def mixedAnswers : Script :=
  [{ argument := some "a.js", program := some "jslint", notFound := true },
    { argument := some "b.js", program := some "jslint", output := { code := 2 } },
    { argument := some "c.js", program := some "jslint", output := { code := 3 } }]

/-- Each of the kinds once, and a file without a problem. -/
theorem classification_law_mixed :
    formattedScripts.mode = .perFile ∧ ∃ problems,
      ((runTool formattedScripts false scriptFiles.toList).run (scripted sources)
        mixedAnswers).value = .failed (.files problems) ∧
      (.ofString "/src/a.js", .notStarted "Tool not found: jslint") ∈ problems ∧
      (.ofString "/src/b.js", .needsFormatting) ∈ problems ∧
      (.ofString "/src/c.js", .exitCode 3) ∈ problems ∧
      .ofString "/src/d.js" ∉ problems.map Prod.fst := by
  obtain ⟨starts, results, rfl, rfl, -, -, -, hfailed⟩ :=
    classification_law formattedScripts rfl false scriptFiles (scripted sources) mixedAnswers
  obtain ⟨problems, hvalue, -, -, hlaw⟩ := hfailed (by decide +kernel)
  obtain ⟨-, -, -, hmissing⟩ := hlaw 0 _ _ rfl rfl
  obtain ⟨-, hformat, -⟩ := hlaw 1 _ _ rfl rfl
  obtain ⟨-, -, hfaulty, -⟩ := hlaw 2 _ _ rfl rfl
  obtain ⟨hfine, -⟩ := hlaw 3 _ _ rfl rfl
  refine ⟨rfl, problems, hvalue, (hmissing _).mpr ⟨_, rfl, rfl⟩, hformat.mpr ⟨_, rfl, ?_, rfl⟩,
    (hfaulty _).mpr ⟨_, rfl, rfl, ?_, ?_⟩, fun hmem => hfine.mp hmem ⟨_, rfl, rfl⟩⟩
  · decide
  · decide
  · decide

end Example

/-! ## 3. The fixer -/

section Fixing

variable (c : Category) (o : LintOptions)

theorem isFixable_batchStatus {result : Except StartError Output} :
    (batchStatus result).isFixable = true ↔ ∃ output, result = .ok output ∧ output.code ≠ 0 := by
  cases result with
  | error e => simp [batchStatus, Status.isFixable, Failure.isFixable]
  | ok output =>
    by_cases hcode : output.code = 0
    · simp [batchStatus, Output.succeeded, hcode, Status.isFixable]
    · simp [batchStatus, Output.succeeded, hcode, Status.isFixable, Failure.isFixable]

theorem isFixable_statusOfProblems {problems : List (Path × Problem)} :
    (statusOfProblems problems).isFixable = true ↔
      ∃ entry ∈ problems, entry.2.isFinding = true := by
  cases problems with
  | nil => simp [statusOfProblems, Status.isFixable]
  | cons entry problems =>
    rw [statusOfProblems_of_ne_nil (List.cons_ne_nil entry problems)]
    exact List.any_eq_true

/-- **A status calls for the fixer** exactly if some start of the tool found something. -/
theorem isFixable_statusGiven {fix : Bool} {files : List Path} (hfiles : files ≠ [])
    {results : List (Except StartError Output)}
    (hlength : results.length = (c.toolStarts fix files).length) :
    (c.statusGiven files results).isFixable = true ↔
      ∃ output, .ok output ∈ results ∧ output.code ≠ 0 := by
  have hsome : files.isEmpty = false := List.isEmpty_eq_false_iff.mpr hfiles
  unfold Category.statusGiven
  unfold Category.toolStarts at hlength
  rw [hsome]
  cases hmode : c.mode with
  | batch =>
    rw [hmode, hsome] at hlength
    obtain ⟨result, rfl⟩ := List.length_eq_one_iff.mp hlength
    show (batchStatus result).isFixable = true ↔ _
    rw [isFixable_batchStatus]
    simp only [List.mem_singleton, eq_comm]
  | perFile =>
    rw [hmode, List.length_map] at hlength
    show (statusOfProblems (c.tool.problemsGiven files results)).isFixable = true ↔ _
    rw [isFixable_statusOfProblems]
    constructor
    · rintro ⟨⟨file, p⟩, hmem, hfinding⟩
      obtain ⟨result, hzip, hp⟩ := Tool.mem_problemsGiven.mp hmem
      obtain ⟨output, rfl, hcode⟩ := Tool.exists_finding_iff.mp ⟨p, hp, hfinding⟩
      exact ⟨output, (List.of_mem_zip hzip).2, hcode⟩
    · rintro ⟨output, hmem, hcode⟩
      obtain ⟨file, hzip⟩ := exists_mem_zip hmem hlength
      obtain ⟨p, hp, hfinding⟩ := (c.tool.exists_finding_iff).mpr ⟨output, rfl, hcode⟩
      exact ⟨(file, p), Tool.mem_problemsGiven.mpr ⟨_, hzip, hp⟩, hfinding⟩

theorem Category.mem_fixerStarts_iff {files : List Path} {status : Status} {i : Invocation} :
    i ∈ c.fixerStarts o files status ↔ ∃ fixer, c.fixer = some fixer ∧
      (o.fix = true ∧ status.isFixable = true) ∧ i = fixer.invocation o.fix files := by
  unfold fixerStarts
  cases c.fixer with
  | none => simp
  | some fixer =>
    simp only [Option.some.injEq, exists_eq_left', ← Bool.and_eq_true]
    split
    · rename_i hwanted
      rw [List.mem_singleton]
      exact (and_iff_right hwanted).symm
    · rename_i hwanted
      exact iff_of_false List.not_mem_nil fun h => hwanted h.1

end Fixing

/-- **When and how the fixer runs.**  The tool is started over the files first, and after that
the fixer, once at most.  It is started exactly if files are to be fixed, the category has a
fixer, and some start of the tool ran and had a code other than zero.  It gets its own arguments,
its arguments for fixing and all the files that the tool got, in their order, and has its own
environment, directory and way with standard error.  The status has nothing to do with it:
whoever replies the same to the starts of the tool brings about the same status. -/
theorem fixer_law (c : Category) (o : LintOptions) (files : PathSet) (hfiles : files.toList ≠ [])
    (runner : Runner σ) (s : σ) :
    ∃ starts fixes, starts = c.toolStarts o.fix files.toList ∧
      c.fileArguments o.fix starts = files.toList.map Path.bytes ∧
      ((lint c o files).run runner s).started = starts ++ fixes ∧ fixes.length ≤ 1 ∧
      (fixes ≠ [] ↔ o.fix = true ∧ c.fixer ≠ none ∧
        ∃ output, .ok output ∈ runner.results s starts ∧ output.code ≠ 0) ∧
      (∀ i ∈ fixes, ∃ fixer, c.fixer = some fixer ∧ i.program = fixer.program ∧
        i.arguments = fixer.arguments.map Utf8.encode ++ fixer.fixArguments.map Utf8.encode ++
          files.toList.map Path.bytes ∧
        i.environment = fixer.environment ∧ i.directory = fixer.directory.map Path.ofString ∧
        i.capturesErrors = fixer.capturesErrors ∧ i.capturesOutput = false) ∧
      ∀ {τ : Type} (runner' : Runner τ) (s' : τ),
        runner'.results s' starts = runner.results s starts →
        ((lint c o files).run runner' s').value = ((lint c o files).run runner s).value := by
  refine ⟨_, _, rfl, fileArguments_toolStarts .., started_lint c o files runner s,
    c.length_fixerStarts_le .., ?_, fun i hi => ?_, fun runner' s' hsame => ?_⟩
  · have hfound := isFixable_statusGiven c hfiles
      (runner.length_results s (c.toolStarts o.fix files.toList))
    rw [← status_lint] at hfound
    rw [← hfound]
    constructor
    · intro hfixes
      obtain ⟨i, hi⟩ := List.exists_mem_of_ne_nil _ hfixes
      obtain ⟨fixer, hfixer, ⟨hfix, hfixable⟩, -⟩ := (c.mem_fixerStarts_iff o).mp hi
      exact ⟨hfix, Option.ne_none_iff_exists'.mpr ⟨fixer, hfixer⟩, hfixable⟩
    · rintro ⟨hfix, hfixer, hfixable⟩
      obtain ⟨fixer, hfixer⟩ := Option.ne_none_iff_exists'.mp hfixer
      exact List.ne_nil_of_mem
        ((c.mem_fixerStarts_iff o).mpr ⟨fixer, hfixer, ⟨hfix, hfixable⟩, rfl⟩)
  · obtain ⟨fixer, hfixer, ⟨hfix, -⟩, rfl⟩ := (c.mem_fixerStarts_iff o).mp hi
    rw [hfix]
    exact ⟨fixer, hfixer, rfl, rfl, rfl, rfl, rfl, rfl⟩
  · rw [status_lint, status_lint, hsame]

namespace Example

/-- The same, and the fixer cannot be started. -/
def mixedAnswersWithoutFixer : Script :=
  { program := some "jsfix", notFound := true } :: mixedAnswers

/-- The fixer gets all four files after its own arguments; whether it can be started makes no
difference to the status. -/
theorem fixer_law_mixed :
    scriptFiles.toList ≠ [] ∧
      (∃ i, ((lint formattedScripts { fix := true } scriptFiles).run (scripted sources)
          mixedAnswers).started = formattedScripts.toolStarts true scriptFiles.toList ++ [i] ∧
        i.program = "jsfix" ∧ i.arguments = ["-i", "--now", "/src/a.js", "/src/b.js",
          "/src/c.js", "/src/d.js"].map Utf8.encode) ∧
      ((lint formattedScripts { fix := true } scriptFiles).run (scripted sources)
          mixedAnswersWithoutFixer).value =
        ((lint formattedScripts { fix := true } scriptFiles).run (scripted sources)
          mixedAnswers).value := by
  have hfiles : scriptFiles.toList ≠ [] := by decide +kernel
  obtain ⟨starts, fixes, rfl, -, hstarted, hone, hcalled, hfixer, hsame⟩ :=
    fixer_law formattedScripts { fix := true } scriptFiles hfiles (scripted sources) mixedAnswers
  have hfound : fixes ≠ [] := hcalled.mpr ⟨rfl, nofun, { code := 2 }, by decide +kernel, by decide⟩
  refine ⟨hfiles, ?_, hsame (scripted sources) mixedAnswersWithoutFixer (by decide +kernel)⟩
  obtain ⟨i, rfl⟩ : ∃ i, fixes = [i] :=
    List.length_eq_one_iff.mp (Nat.le_antisymm hone (List.length_pos_iff.mpr hfound))
  obtain ⟨_, ⟨⟩, hprogram, harguments, -⟩ := hfixer i List.mem_cons_self
  exact ⟨i, hstarted, hprogram, harguments.trans (by decide +kernel)⟩

end Example

end LintRun

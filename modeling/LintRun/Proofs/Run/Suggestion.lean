import LintRun.Proofs.Run.Console

/-!
# The command that is suggested for a file that needs formatting

A command is shown as its program with each argument behind it, so arguments that are left out
are missed in what is shown (`display_eq_iff`).

If files are linted one by one and not fixed, the line about a file that needs formatting
suggests the tool with the arguments that it is always given.  To fix the file the tool is
started with its arguments for fixing as well, so what is suggested is that command exactly if
the tool has none of these (`suggestion_law`).

The two commands have the same program and the same arguments but for those in between, so
it is enough to count: each argument takes at least one character more than nothing, the space
before it (`shownLength_eq_zero_iff`).  So nothing
is assumed of the arguments: two that differ may be shown alike, if they are no text, and an
empty one is no more than its space, but that space is seen.
-/

namespace LintRun

variable {σ : Type}

/-! ## 1. What is shown of a command -/

namespace Invocation

/-- How long arguments are that are shown with a space before each. -/
def shownLength (arguments : List (List UInt8)) : Nat :=
  (arguments.map fun a => (displayArgument a).length + 1).sum

/-- One argument more is longer by what is shown of it and a space. -/
@[simp] theorem shownLength_cons (a : List UInt8) (arguments : List (List UInt8)) :
    shownLength (a :: arguments) = (displayArgument a).length + 1 + shownLength arguments := by
  simp [shownLength]

/-- Rows of arguments behind one another are as long as both. -/
@[simp] theorem shownLength_append (xs ys : List (List UInt8)) :
    shownLength (xs ++ ys) = shownLength xs + shownLength ys := by
  simp [shownLength]

/-- Every argument is seen, at least by the space before it. -/
theorem shownLength_eq_zero_iff {arguments : List (List UInt8)} :
    shownLength arguments = 0 ↔ arguments = [] := by
  cases arguments with
  | nil => exact ⟨fun _ => rfl, fun _ => rfl⟩
  | cons a arguments =>
    rw [shownLength_cons]
    exact iff_of_false (by omega) (List.cons_ne_nil a arguments)

/-- How long a command is that is shown. -/
theorem length_display (i : Invocation) :
    i.display.length = i.program.length + shownLength i.arguments := by
  have hfold (arguments : List (List UInt8)) (text : String) :
      (arguments.foldl (fun text a => text ++ " " ++ displayArgument a) text).length =
        text.length + shownLength arguments := by
    induction arguments generalizing text with
    | nil => rfl
    | cons a arguments ih =>
      rw [List.foldl_cons, ih, String.length_append, String.length_append, shownLength_cons]
      show text.length + 1 + _ + _ = _
      omega
  exact hfold i.arguments i.program

/-- What is shown of a command is its program and its arguments; not its directory. -/
theorem display_congr {i j : Invocation} (hprogram : i.program = j.program)
    (harguments : i.arguments = j.arguments) : i.display = j.display := by
  rw [display, display, hprogram, harguments]

/-- **Arguments that are left out** are missed, if there are any. -/
theorem display_eq_iff {i j : Invocation} {before more after : List (List UInt8)}
    (hprogram : i.program = j.program) (hi : i.arguments = before ++ after)
    (hj : j.arguments = before ++ more ++ after) : i.display = j.display ↔ more = [] := by
  constructor
  · intro hshown
    have hlength := congrArg String.length hshown
    rw [length_display, length_display, hprogram, hi, hj, shownLength_append, shownLength_append,
      shownLength_append] at hlength
    exact shownLength_eq_zero_iff.mp (by omega)
  · rintro rfl
    rw [List.append_nil] at hj
    exact display_congr hprogram (hi.trans hj.symm)

end Invocation

/-- The line about a file that needs formatting, with a command that is suggested for it. -/
def formatLine (file : Path) (command : String) : String :=
  "Format errors in \"" ++ file.display ++ "\". Run '" ++ command ++
    "' or rerun with --fix to fix them."

/-! ## 2. The start that a line is about

The line about a file is printed after the tool has been started over it and before the
next start, so it is found from the place of the start among the events: as many files have
been
linted as there were starts before. -/

section Checking

variable {c : Category} {o : LintOptions} {files : PathSet} {runner : Runner σ} {s : σ}

/-- Without fixing there is no fixer. -/
theorem fixerExchanges_of_check (hcheck : o.fix = false) :
    c.fixerExchanges o files runner s = [] := by
  have hstarts := c.invocations_fixerExchanges o files runner s
  rw [← List.map_eq_nil_iff (f := Exchange.invocation), hstarts]
  refine List.eq_nil_iff_forall_not_mem.mpr fun i hi => ?_
  obtain ⟨-, -, ⟨hfix, -⟩, -⟩ := (c.mem_fixerStarts_iff o).mp hi
  rw [hcheck] at hfix
  cases hfix

/-- **A start without fixing**, one file at a time: it is that of the tool over the file in its
place, with what the tool had to say and the problem of the file right behind it. -/
theorem file_of_start (hmode : c.mode = .perFile) (hcheck : o.fix = false)
    {before later : List Event} {i : Invocation} {reply : Reply}
    (h : ((lint c o files).run runner s).events = before ++ .ran i reply :: later) :
    ∃ file, files.toList[(before.filterMap Event.invocation?).length]? = some file ∧
      i = c.tool.invocation false [file] ∧
      linesAtOnce later = c.signalLines reply.result ++
        ((c.tool.problemIn reply.result).map (c.tool.problemLine file)).toList := by
  rw [events_lint, fixerExchanges_of_check hcheck, List.append_nil] at h
  obtain ⟨es₁, e, es₂, hsplit, rfl, rfl, rfl, rfl⟩ := split_exchanges h
  rw [started_exchanges, linesAtOnce_exchanges, List.length_map]
  have he : (c.toolExchanges o files runner s)[es₁.length]? = some e := by
    rw [hsplit, List.getElem?_append_right (Nat.le_refl _), Nat.sub_self]
    rfl
  -- The exchanges before this one are as many as the files before its file.
  obtain ⟨file, hfile, hlines⟩ := lines_of_perFile hmode he
  refine ⟨file, hfile, ?_, hlines⟩
  have hstart : (c.toolStarts o.fix files.toList)[es₁.length]? = some e.invocation := by
    rw [← c.invocations_toolExchanges o files runner s, List.getElem?_map, he]
    rfl
  rw [Category.toolStarts, hmode, hcheck] at hstart
  dsimp only at hstart
  rw [List.getElem?_map, hfile] at hstart
  exact (Option.some.inj hstart).symm

/-- **The start that fixes a file** has the place of the file, whoever answers. -/
theorem started_of_fix (hmode : c.mode = .perFile) (hfix : o.fix = true) {k : Nat} {file : Path}
    (hfile : files.toList[k]? = some file) :
    ((lint c o files).run runner s).started[k]? = some (c.tool.invocation true [file]) := by
  have htool : (c.toolStarts o.fix files.toList)[k]? = some (c.tool.invocation true [file]) := by
    rw [Category.toolStarts, hmode, hfix]
    dsimp only
    rw [List.getElem?_map, hfile]
    rfl
  obtain ⟨hk, -⟩ := List.getElem?_eq_some_iff.mp htool
  rw [started_lint, Category.starts, List.getElem?_append_left hk, htool]

end Checking

/-- **What is suggested is the command that fixes, but for the arguments for fixing.**  Let files be
linted one by one and not fixed, and the tool say of a file that it needs formatting.  Then the
lines right after that start are what the tool had to say and one line about the file, which
suggests the tool with the arguments that it is always given and the file.  With fixing on, and
whoever answers, the tool is started over that file with its arguments for fixing in between.
The line names that command exactly if there are no such arguments. -/
theorem suggestion_law (c : Category) (hmode : c.mode = .perFile) (o : LintOptions)
    (hcheck : o.fix = false) (files : PathSet) (runner : Runner σ) (s : σ)
    (before later : List Event) (i : Invocation) (reply : Reply) (output : Output)
    (h : ((lint c o files).run runner s).events = before ++ .ran i reply :: later)
    (hran : reply.result = .ok output) (hcode : output.code ≠ 0)
    (hformat : c.tool.needsFormatCode = some output.code) :
    ∃ (file : Path) (suggested fixing : Invocation),
      files.toList[(before.filterMap Event.invocation?).length]? = some file ∧
      i = c.tool.invocation false [file] ∧
      linesAtOnce later =
        c.signalLines reply.result ++ [formatLine file suggested.display] ∧
      suggested.program = c.tool.program ∧
      suggested.arguments = c.tool.arguments.map Utf8.encode ++ [file.bytes] ∧
      (∀ {τ : Type} (runner' : Runner τ) (s' : τ),
        ((lint c { o with fix := true } files).run runner' s').started[
          (before.filterMap Event.invocation?).length]? = some fixing) ∧
      fixing.program = c.tool.program ∧
      fixing.arguments = c.tool.arguments.map Utf8.encode ++
        c.tool.fixArguments.map Utf8.encode ++ [file.bytes] ∧
      (suggested.display = fixing.display ↔ c.tool.fixArguments = []) := by
  obtain ⟨file, hfile, hi, hlines⟩ := file_of_start hmode hcheck h
  have hproblem : c.tool.problemIn reply.result = some .needsFormatting :=
    Tool.problemIn_eq_needsFormatting_iff.mpr ⟨output, hran, hcode, hformat⟩
  rw [hproblem] at hlines
  refine ⟨file, c.tool.formatCommand file, c.tool.invocation true [file], hfile, hi, hlines, rfl,
    rfl, fun runner' s' => started_of_fix hmode rfl hfile, rfl, rfl, ?_⟩
  have hshown : (c.tool.formatCommand file).display = (c.tool.invocation true [file]).display ↔
      c.tool.fixArguments.map Utf8.encode = [] := Invocation.display_eq_iff rfl rfl rfl
  rw [hshown, List.map_eq_nil_iff]

namespace Example

/-- Scripts that are formatted one by one, with an argument for fixing and one for checking. -/
def formattable : Category :=
  { category "js" .perFile none with
    tool := {
      program := "jsfmt"
      arguments := ["format"]
      fixArguments := ["--write"]
      checkArguments := ["--dry-run"]
      needsFormatCode := some 2 } }

/-- Every script needs formatting. -/
def unformatted : Script := [{ output := { code := 2 } }]

/-- The law for one script and a tool with an argument for fixing. -/
theorem suggestion_law_unformatted :
    formattable.mode = .perFile ∧ ∃ (later : List Event) (suggested fixing : Invocation),
      ((lint formattable {} oneScript).run (scripted sources) unformatted).events =
        [] ++ .ran (formattable.tool.invocation false oneScript.toList)
          { result := .ok { code := 2 } } :: later ∧
      linesAtOnce later = [formatLine (.ofString "/src/a.js") suggested.display] ∧
      suggested.arguments = ["format", "/src/a.js"].map Utf8.encode ∧
      fixing.arguments = ["format", "--write", "/src/a.js"].map Utf8.encode ∧
      suggested.display ≠ fixing.display := by
  obtain ⟨file, suggested, fixing, hfile, -, hlines, -, hsuggested, -, -, hfixing, hshown⟩ :=
    suggestion_law formattable rfl {} rfl oneScript (scripted sources) unformatted [] _ _ _
      { code := 2 } rfl rfl (by decide) rfl
  obtain rfl : Path.ofString "/src/a.js" = file := Option.some.inj hfile
  exact ⟨rfl, _, suggested, fixing, rfl, hlines, hsuggested, hfixing,
    fun hsame => absurd (hshown.mp hsame) (by decide)⟩

/-- **What is suggested is not what fixes**: the line leaves out the argument for fixing, with
which
the tool is started over the same file when fixing is on. -/
theorem suggested_command_lacks_argument :
    ((lint formattable {} oneScript).run (scripted sources) unformatted).events.filterMap
        Event.line? = [formatLine (.ofString "/src/a.js") "jsfmt format /src/a.js"] ∧
    ((lint formattable { fix := true } oneScript).run (scripted sources)
        unformatted).started.map Invocation.display = ["jsfmt format --write /src/a.js"] ∧
    formatLine (.ofString "/src/a.js") "jsfmt format --write /src/a.js" ≠
      formatLine (.ofString "/src/a.js") "jsfmt format /src/a.js" := by
  decide +kernel

end Example

end LintRun

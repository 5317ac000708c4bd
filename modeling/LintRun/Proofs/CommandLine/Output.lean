import LintRun.Proofs.CommandLine.ExitStatus

/-!
# What the program writes to standard output

Until the end of a run the program itself writes to standard error only, so that what reaches
standard output comes from the processes that share it (`Host.out_eq_heard`).  Tools and fixers
do, one after another; the command that lists changed files does not, as its output is handed
back.  What the program adds at the end is the document of the report, or its summary, or
nothing (`output_law`).

Standard output is not kept anywhere in the program: it is what the events of a run add up to.
So the argument is about events.  Every reply in a run is that of the host (`replied_run`), and
a reply holds what was written to the stream if the stream was shared, and nothing if it was
captured; lines that are noted go elsewhere.  Hence what is added is heard of the processes
that were started, in order (`out_eq_heard`), and the protocol says which these are.
-/

namespace LintRun

variable {σ : Type}

/-! ## 1. What processes write

A process that cannot be started has written nothing.  Whether the program hears of a stream
was asked for when the process was started. -/

namespace Host

variable (host : Host σ)

/-- What a process writes to its standard output; nothing if it cannot be started. -/
def output (i : Invocation) (s : σ) : List UInt8 :=
  match (host.spawn i s).1 with
  | .ok (_, written) => written.out
  | .error _ => []

/-- What processes write to their standard outputs, started one after another. -/
def outputs : σ → List Invocation → List UInt8
  | _, [] => []
  | s, i :: is => host.output i s ++ outputs (host.spawn i s).2 is

/-- What is heard of it: the output of a process is heard unless it is captured. -/
def heard : σ → List Invocation → List UInt8
  | _, [] => []
  | s, i :: is => (if i.capturesOutput then [] else host.output i s) ++
      heard (host.spawn i s).2 is

/-- What is shared of a process is its output, unless that is captured. -/
theorem shared_answer (i : Invocation) (s : σ) :
    (host.runner.answer i s).1.shared.out =
      if i.capturesOutput then [] else host.output i s := by
  show (reply i (host.spawn i s).1).shared.out = _
  unfold output
  cases (host.spawn i s).1 with
  | ok ended => rfl
  | error e =>
    have hnothing : (if i.capturesOutput then [] else [] : List UInt8) = [] := ite_self _
    cases e with
    | notFound => exact hnothing.symm
    | _ => exact hnothing.symm

variable {host} {s : σ}

/-- What is heard of two rows is heard one after the other, the second from the state after the
first. -/
theorem heard_append (is js : List Invocation) :
    host.heard s (is ++ js) = host.heard s is ++ host.heard (host.runner.after s is) js := by
  induction is generalizing s with
  | nil => rfl
  | cons i is ih =>
    rw [List.cons_append, heard, heard, ih, List.append_assoc]
    rfl

/-- Nothing is heard of processes whose output is captured. -/
theorem heard_of_captured {is : List Invocation} (h : ∀ i ∈ is, i.capturesOutput = true) :
    host.heard s is = [] := by
  induction is generalizing s with
  | nil => rfl
  | cons i is ih =>
    obtain ⟨hi, his⟩ := List.forall_mem_cons.mp h
    rw [heard, if_pos hi, ih his]
    rfl

/-- All is heard of processes that share their output. -/
theorem heard_of_shared {is : List Invocation} (h : ∀ i ∈ is, i.capturesOutput = false) :
    host.heard s is = host.outputs s is := by
  induction is generalizing s with
  | nil => rfl
  | cons i is ih =>
    obtain ⟨hi, his⟩ := List.forall_mem_cons.mp h
    rw [heard, outputs, hi, ih his]
    rfl

/-- **What events add to standard output** is what is heard of the processes among them: to
enter a phase and to write a line add nothing. -/
theorem out_eq_heard {events : List Event} (h : host.runner.Replied s events) :
    events.flatMap Event.out = host.heard s (events.filterMap Event.invocation?) := by
  induction events generalizing s with
  | nil => rfl
  | cons e events ih =>
    cases e with
    | ran i reply =>
      obtain ⟨rfl, hlater⟩ := h
      show (host.runner.answer i s).1.shared.out ++ events.flatMap Event.out = _
      rw [ih hlater, shared_answer]
      rfl
    | entered phase => exact ih h
    | noted line => exact ih h

end Host

/-! ## 2. Whole runs

The listing is heard of by no one and the blocks are heard of completely, so that the two
halves of what was started are treated by one lemma each. -/

/-- The listing is captured. -/
theorem capturesOutput_of_mem_lead {r : Registry} {o : RunOptions} {selected : List Category}
    {i : Invocation} (h : i ∈ r.lead o selected) : i.capturesOutput = true := by
  rw [eq_of_mem_lead r o selected h]
  rfl

/-- **What a completed run adds to standard output**: what its tools and fixers write. -/
theorem out_run {host : Host σ} {s : σ} {r : Registry} {o : RunOptions}
    {selected : List Category} {xs : List Outcome}
    (hstarted : ((r.run o).run host.runner s).started =
      r.lead o selected ++ (blocks o.lint selected xs).flatten) :
    ((r.run o).run host.runner s).events.flatMap Event.out =
      host.outputs (host.runner.after s (r.lead o selected))
        (blocks o.lint selected xs).flatten := by
  have hshared : ∀ i ∈ (blocks o.lint selected xs).flatten, i.capturesOutput = false := by
    intro i hi
    obtain ⟨c, -, x, -, given, -, hover⟩ := startsOver_of_mem_blocks hi
    exact hover.capturesOutput
  calc ((r.run o).run host.runner s).events.flatMap Event.out
      = host.heard s ((r.run o).run host.runner s).started :=
        Host.out_eq_heard (replied_run r o host.runner s)
    _ = host.heard s (r.lead o selected) ++
          host.heard (host.runner.after s (r.lead o selected))
            (blocks o.lint selected xs).flatten := by rw [hstarted, Host.heard_append]
    _ = host.outputs (host.runner.after s (r.lead o selected))
          (blocks o.lint selected xs).flatten := by
        rw [Host.heard_of_captured fun i => capturesOutput_of_mem_lead, List.nil_append,
          Host.heard_of_shared hshared]

/-! ## 3. The program

A line that is printed is its text and the byte of a line feed. -/

theorem encode_append (a b : String) : Utf8.encode (a ++ b) = Utf8.encode a ++ Utf8.encode b := by
  simp [Utf8.encode]

theorem encode_line (line : String) : Utf8.encode (line ++ "\n") = Utf8.encode line ++ [10] :=
  encode_append line "\n"

theorem toOption_eq_some_iff {ε α : Type} {x : Except ε α} {a : α} :
    x.toOption = some a ↔ x = .ok a := by
  cases x with
  | error e => simp [Except.toOption]
  | ok b => simp [Except.toOption]

namespace Program

theorem encode_linesText (lines : List String) :
    Utf8.encode (linesText lines) = lines.flatMap fun line => Utf8.encode line ++ [10] := by
  have hjoin (lines : List String) (before : String) :
      Utf8.encode ((lines.map (· ++ "\n")).foldl (· ++ ·) before) =
        Utf8.encode before ++ lines.flatMap fun line => Utf8.encode line ++ [10] := by
    induction lines generalizing before with
    | nil => simp
    | cons line lines ih =>
      rw [List.map_cons, List.foldl_cons, ih, encode_append, encode_line, List.flatMap_cons,
        List.append_assoc]
  exact hjoin lines ""

/-- What the program goes by if it runs the linters: options, a registry, and the report. -/
def lints? (args : List (List UInt8)) (runner : Runner σ) (s : σ) :
    Option (Options × Registry × Report) := do
  let o ← (Options.ofArguments args).toOption
  let sourceRoot ← ((runner.files s).canonical? o.root).toOption
  let r ← (Registry.discover (runner.files s) sourceRoot o.config).toOption
  let report ← ((r.run (runOptions o)).run runner s).value.toOption
  if o.has .list then none else some (o, r, report)

/-- The program runs the linters exactly if each of its steps gives what the next one needs. -/
theorem lints?_eq_some_iff {args : List (List UInt8)} {runner : Runner σ} {s : σ} {o : Options}
    {r : Registry} {report : Report} :
    lints? args runner s = some (o, r, report) ↔ Lints args runner s o r report := by
  simp only [lints?, Option.bind_eq_bind, Option.bind_eq_some_iff, toOption_eq_some_iff,
    Option.ite_none_left_eq_some, Bool.not_eq_true, Option.some.injEq, Prod.mk.injEq]
  constructor
  · rintro ⟨_, ho, root, hroot, _, hr, _, hreport, hlist, rfl, rfl, rfl⟩
    exact ⟨ho, ⟨root, hroot, hr⟩, hlist, hreport⟩
  · rintro ⟨ho, ⟨root, hroot, hr⟩, hlist, hreport⟩
    exact ⟨o, ho, root, hroot, r, hr, report, hreport, hlist, rfl, rfl, rfl⟩

/-- The program leaves what its run added to standard output, and what it says of the report. -/
theorem Lints.out_run {args : List (List UInt8)} {runner : Runner σ} {s : σ} {o : Options}
    {r : Registry} {report : Report} (h : Lints args runner s o r report) :
    (run args runner s).streams.out =
      ((r.run (runOptions o)).run runner s).events.flatMap Event.out ++
        Utf8.encode (reportText o report) := by
  rw [h.run_eq, lintTree, h.completed]

end Program

/-- **The composition of standard output.**  Whatever comes of the processes on a host, if the
program runs the linters then standard output holds what the tools and fixers wrote that it
started, in that order, none of them being captured, and after it the document of the report and
the end of a line, or one line for each outcome if the summary is wanted, or nothing.  What the
listing command wrote is not in it, and no line that the program notes on the way. -/
theorem output_law (host : Host σ) (s : σ) (args : List (List UInt8)) (o : Options)
    (r : Registry) (report : Report) (hlints : Program.Lints args host.runner s o r report) :
    ∃ selected closing, r.select (Program.runOptions o).categories = .ok selected ∧
      ((r.run (Program.runOptions o)).run host.runner s).started =
        r.lead (Program.runOptions o) selected ++
          (blocks (Program.runOptions o).lint selected report.outcomes).flatten ∧
      (∀ i ∈ (blocks (Program.runOptions o).lint selected report.outcomes).flatten,
        i.capturesOutput = false ∧ ∃ c ∈ selected, ∃ x ∈ report.outcomes, ∃ given ⊆ x.files,
          c.StartsOver (o.has .fix) given i) ∧
      (Program.run args host.runner s).streams.out =
        host.outputs (host.runner.after s (r.lead (Program.runOptions o) selected))
          (blocks (Program.runOptions o).lint selected report.outcomes).flatten ++ closing ∧
      (o.format = .json → closing = Utf8.encode report.json ++ [10]) ∧
      (o.format = .text → o.has .verbose = true →
        closing = report.outcomes.flatMap fun x => Utf8.encode x.summary ++ [10]) ∧
      (o.format = .text → o.has .verbose = false → closing = []) := by
  obtain ⟨selected, changed, hselect, -, -, hstarted⟩ := completed_run hlints.completed
  refine ⟨selected, Utf8.encode (Program.reportText o report), hselect, hstarted, ?_, ?_, ?_, ?_,
    ?_⟩
  · intro i hi
    obtain ⟨c, hc, x, hx, given, hgiven, hover⟩ := startsOver_of_mem_blocks hi
    exact ⟨hover.capturesOutput, c, hc, x, hx, given, hgiven, hover⟩
  · rw [hlints.out_run, out_run hstarted]
  · intro hjson
    rw [Program.reportText, hjson]
    exact encode_line _
  · intro htext hverbose
    rw [Program.reportText, htext]
    show Utf8.encode (if o.has .verbose then _ else _) = _
    rw [if_pos hverbose, Program.encode_linesText, Report.summary, List.flatMap_map]
  · intro htext hquiet
    rw [Program.reportText, htext]
    show Utf8.encode (if o.has .verbose then _ else _) = _
    rw [hquiet]
    rfl

namespace Example

/-- A registry file with one category that has a fixer. -/
def fixingFile : String :=
  "[[category]]\nkey = \"js\"\nroots = [\"\"]\nextensions = [\"js\"]\n" ++
    "[category.tool]\nprogram = \"jslint\"\n[category.fixer]\nprogram = \"jsfix\"\n"

/-- A host on which a script has changed, and tools and fixers find fault and say who they
are. -/
def talking : Host Unit where
  spawn i _ :=
    if i.program = "git" then (.ok (.clean, { out := Utf8.encode "a.js\n" }), ())
    else (.ok (.exited 1, { out := Utf8.encode (i.program ++ "\n") }), ())
  files _ := {
    root := .file (Utf8.encode ".polylint.toml") { content := Utf8.encode fixingFile } <|
      .file (Utf8.encode "a.js") {} .empty }

/-- A run over what has changed that fixes it, with progress and a document. -/
def fixingArguments : List (List UInt8) :=
  ["--changed", "--fix", "--verbose", "--format=json"].map Utf8.encode

/-- A listing that is not heard, a tool, a fixer, and the document after them; the line of
progress is not in it. -/
theorem output_law_talking :
    ∃ o r report, Program.Lints fixingArguments talking.runner () o r report ∧
      o.has .verbose = true ∧
      ((r.run (Program.runOptions o)).run talking.runner ()).started.map (·.program) =
        ["git", "jslint", "jsfix"] ∧
      (Program.run fixingArguments talking.runner ()).streams.out =
        Utf8.encode "jslint\njsfix\n" ++ (Utf8.encode report.json ++ [10]) := by
  have hsome : (Program.lints? fixingArguments talking.runner ()).any (fun (o, r, report) =>
      o.selected = [] ∧ o.format = .json ∧ o.has .verbose = true ∧
      ((r.run (Program.runOptions o)).run talking.runner ()).started.map (·.program) =
        ["git", "jslint", "jsfix"] ∧
      talking.outputs (talking.runner.after () (r.lead (Program.runOptions o) r.categories))
        (blocks (Program.runOptions o).lint r.categories report.outcomes).flatten =
          Utf8.encode "jslint\njsfix\n") = true := by
    decide +kernel
  obtain ⟨⟨o, r, report⟩, hlints, hfacts⟩ := (Option.any_eq_true _ _).mp hsome
  obtain ⟨hall, hjson, hverbose, hstarts, houtputs⟩ := of_decide_eq_true hfacts
  have hlints := Program.lints?_eq_some_iff.mp hlints
  obtain ⟨selected, closing, hselect, -, -, hout, hdocument, -⟩ :=
    output_law talking () fixingArguments o r report hlints
  have hselected : selected = r.categories := by
    rw [Program.runOptions, hall] at hselect
    exact (Except.ok.inj hselect).symm
  refine ⟨o, r, report, hlints, hverbose, hstarts, ?_⟩
  rw [hout, hselected, houtputs, hdocument hjson]

end Example

end LintRun

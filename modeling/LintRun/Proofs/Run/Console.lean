import LintRun.Proofs.Run.Findings

/-!
# What linting writes to the console

After each start of a tool come the lines of its standard error that are no noise, in order,
and then one line at most about what is wrong; the next process is started after that
(`console_law`).  Verbose mode puts one line in front of it all and has no other effect.

Of the fixer only that it cannot be started is written.  So what a process says on standard
error is passed on if it is a tool, whatever comes of it, and is lost if it is a fixer
(`diagnostics_law`).

Linting is two rows of exchanges with a line in front (`events_lint`), and an exchange is a
start with its lines right behind it.  So the first law is about the lines of an exchange: what
a result calls for, by the mode.  That the one line about a file is there exactly if the file
has a problem in the status needs that files are not repeated, since the status knows files and
not positions.

The second law is about events and not about exchanges, as it speaks of any process whose
standard error was captured.  An event that is a start can be found among the exchanges in one
place only (`split_exchanges`), and what follows it up to the next start are the lines of its
exchange.
-/

namespace LintRun

variable {σ : Type}

/-! ## 1. The lines after a start

The signal of what a tool said comes first in either mode, also where there is no problem. -/

section Lines

variable (c : Category)

/-- The line about a start over all files, if it failed. -/
def Category.startLine? : Except StartError Output → Option String
  | .ok _ => none
  | .error e => some (c.key ++ ": " ++ e.message)

/-- A tool that ran is not written about, whatever its code. -/
theorem Category.startLine?_eq_some_iff {result : Except StartError Output} {line : String} :
    c.startLine? result = some line ↔
      ∃ e, result = .error e ∧ line = c.key ++ ": " ++ e.message := by
  cases result with
  | ok output => simp [startLine?]
  | error e => simp [startLine?, eq_comm]

theorem Category.batchLines_eq (result : Except StartError Output) :
    c.batchLines result = c.signalLines result ++ (c.startLine? result).toList := by
  cases result with
  | ok output => exact (List.append_nil _).symm
  | error e => rfl

theorem Category.fileLines_eq (file : Path) (result : Except StartError Output) :
    c.fileLines file result =
      c.signalLines result ++ ((c.tool.problemIn result).map (c.tool.problemLine file)).toList := by
  rw [fileLines, Option.toList_map]

/-- The problems of a status are those of the files, if they are linted one by one. -/
theorem Category.problems_statusGiven (hmode : c.mode = .perFile) (files : List Path)
    (results : List (Except StartError Output)) :
    (c.statusGiven files results).problems = c.tool.problemsGiven files results := by
  unfold statusGiven
  rw [hmode]
  cases files with
  | nil => rfl
  | cons file files =>
    show (statusOfProblems _).problems = _
    by_cases hnil : c.tool.problemsGiven (file :: files) results = []
    · rw [hnil]
      rfl
    · rw [statusOfProblems_of_ne_nil hnil]
      rfl

variable {c} {o : LintOptions} {files : PathSet} {runner : Runner σ} {s : σ} {k : Nat}
  {e : Exchange}

/-- **An exchange of a batch**: what the tool had to say, then a line if it did not start. -/
theorem lines_of_batch (hmode : c.mode = .batch)
    (h : (c.toolExchanges o files runner s)[k]? = some e) :
    e.lines = c.signalLines e.reply.result ++ (c.startLine? e.reply.result).toList := by
  obtain ⟨q, hq, he⟩ := runner.getElem?_exchanges h
  have hlines : q.lines = c.batchLines := by
    unfold Category.questions at hq
    rw [hmode] at hq
    have hmem := List.mem_of_getElem? hq
    dsimp only at hmem
    split at hmem
    · exact absurd hmem List.not_mem_nil
    · rw [List.mem_singleton.mp hmem]
  rw [← c.batchLines_eq, ← hlines]
  exact congrArg Exchange.lines he

/-- **An exchange about a file**: what the tool had to say, then a line if something is wrong. -/
theorem lines_of_perFile (hmode : c.mode = .perFile)
    (h : (c.toolExchanges o files runner s)[k]? = some e) :
    ∃ file, files.toList[k]? = some file ∧
      e.lines = c.signalLines e.reply.result ++
        ((c.tool.problemIn e.reply.result).map (c.tool.problemLine file)).toList := by
  obtain ⟨q, hq, he⟩ := runner.getElem?_exchanges h
  unfold Category.questions at hq
  rw [hmode, List.getElem?_map, Option.map_eq_some_iff] at hq
  obtain ⟨file, hfile, rfl⟩ := hq
  refine ⟨file, hfile, ?_⟩
  rw [← c.fileLines_eq]
  exact congrArg Exchange.lines he

/-- **The problem of an exchange** about a file is the one that the status has of it. -/
theorem mem_problems_iff (hmode : c.mode = .perFile)
    (h : (c.toolExchanges o files runner s)[k]? = some e) {file : Path}
    (hfile : files.toList[k]? = some file) {p : Problem} :
    (file, p) ∈ ((lint c o files).run runner s).value.problems ↔
      c.tool.problemIn e.reply.result = some p := by
  have hresult : (runner.results s (c.toolStarts o.fix files.toList))[k]? =
      some e.reply.result := by
    rw [Runner.results, ← c.replies_toolExchanges, List.getElem?_map, List.getElem?_map, h]
    rfl
  rw [status_lint, c.problems_statusGiven hmode,
    c.tool.mem_problemsGiven_iff files.nodup_toList hfile hresult]

/-- **The lines of an exchange**: what the tool had to say, and then one line if all files were
given at once and the tool could not be started, or if one was given and has a problem. -/
theorem exists_problem_line (h : (c.toolExchanges o files runner s)[k]? = some e) :
    ∃ problem : Option String,
      e.lines = c.signalLines e.reply.result ++ problem.toList ∧
      ∀ line, problem = some line ↔
        match c.mode with
        | .batch => ∃ error, e.reply.result = .error error ∧
            line = c.key ++ ": " ++ error.message
        | .perFile => ∃ file p, files.toList[k]? = some file ∧
            (file, p) ∈ ((lint c o files).run runner s).value.problems ∧
            line = c.tool.problemLine file p := by
  cases hmode : c.mode with
  | batch => exact ⟨_, lines_of_batch hmode h, fun line => c.startLine?_eq_some_iff⟩
  | perFile =>
    obtain ⟨file, hfile, hlines⟩ := lines_of_perFile hmode h
    refine ⟨_, hlines, fun line => ?_⟩
    dsimp only
    rw [Option.map_eq_some_iff]
    constructor
    · rintro ⟨p, hp, rfl⟩
      exact ⟨file, p, hfile, (mem_problems_iff hmode h hfile).mpr hp, rfl⟩
    · rintro ⟨file', p, hfile', hmem, rfl⟩
      cases hfile.symm.trans hfile'
      exact ⟨p, (mem_problems_iff hmode h hfile).mp hmem, rfl⟩

end Lines

/-! ## 2. The console

Verbose mode is one line before everything else. -/

section Verbose

variable (c : Category) (o : LintOptions) (files : PathSet) (runner : Runner σ) (s : σ)

/-- **Verbose mode** writes one line first and has no other effect. -/
theorem lint_verbose :
    (lint c { o with verbose := true } files).run runner s =
      let quiet := (lint c { o with verbose := false } files).run runner s
      ⟨quiet.value, .noted (progressLine c files.toList) :: quiet.events, quiet.state⟩ := by
  rw [lint_eq, lint_eq]
  rfl

end Verbose

/-- **What linting writes**, and when.  In verbose mode there is one line first.  Then come the
starts of the tool, each with its reply; if the tool ran, the lines of its standard error follow
that are no noise, in order, and after these one line at most.  If all files are handed over at
once that line is there exactly if the tool could not be started, and names the category and the
cause; if they are handed over one by one it is there exactly if the file has a problem, and is
about that problem.  All that comes before the fixer starts.  Verbose mode changes neither the
status nor anything that happens after its line. -/
theorem console_law (c : Category) (o : LintOptions) (files : PathSet) (runner : Runner σ)
    (s : σ) :
    (∃ exchanges fixing : List Exchange,
      ((lint c o files).run runner s).events =
        (if o.verbose then [.noted (progressLine c files.toList)] else []) ++
          exchanges.flatMap Exchange.events ++ fixing.flatMap Exchange.events ∧
      exchanges.map Exchange.invocation = c.toolStarts o.fix files.toList ∧
      exchanges.map Exchange.reply = runner.replies s (c.toolStarts o.fix files.toList) ∧
      fixing.map Exchange.invocation =
        c.fixerStarts o files.toList ((lint c o files).run runner s).value ∧
      ∀ (k : Nat) (e : Exchange), exchanges[k]? = some e → ∃ problem : Option String,
        e.lines = c.signalLines e.reply.result ++ problem.toList ∧
        ∀ line, problem = some line ↔
          match c.mode with
          | .batch => ∃ error, e.reply.result = .error error ∧
              line = c.key ++ ": " ++ error.message
          | .perFile => ∃ file p, files.toList[k]? = some file ∧
              (file, p) ∈ ((lint c o files).run runner s).value.problems ∧
              line = c.tool.problemLine file p) ∧
    ((lint c { o with verbose := true } files).run runner s).value =
      ((lint c { o with verbose := false } files).run runner s).value ∧
    ((lint c { o with verbose := true } files).run runner s).state =
      ((lint c { o with verbose := false } files).run runner s).state ∧
    ((lint c { o with verbose := true } files).run runner s).events =
      .noted (progressLine c files.toList) ::
        ((lint c { o with verbose := false } files).run runner s).events := by
  refine ⟨⟨c.toolExchanges o files runner s, c.fixerExchanges o files runner s, ?_,
    c.invocations_toolExchanges o files runner s, c.replies_toolExchanges o files runner s,
    c.invocations_fixerExchanges o files runner s, fun k e he => exists_problem_line he⟩, ?_⟩
  · rw [events_lint, Category.progressLines, List.flatMap_append, ← List.append_assoc]
    split
    · rfl
    · rfl
  · rw [lint_verbose]
    exact ⟨rfl, rfl, rfl⟩

namespace Example

/-- Scripts one by one; the tool is captured, and some of what it says is noise. -/
def noisyScripts : Category :=
  { category "js" .perFile (some scriptFixer) with
    tool.capturesErrors := true
    noise := ((Noise.ofTexts ["^Done "]).toOption).getD .none }

/-- A tool that finds fault, and says so between other things. -/
def faulty : Output where
  code := 1
  stderr := "a.js: no end\r\nDone a.js\n"

/-- The tool says something about every script, even if nothing is wrong, and finds fault with
one. -/
def chattyAnswers : Script :=
  [{ argument := some "a.js", output := faulty }, { output := { stderr := "Done\nDone well\r" } }]

/-- Something is said about every file; of the first a line of it is noise, and a problem
follows. -/
theorem console_law_chatty :
    (∃ (exchanges : List Exchange) (e : Exchange), exchanges.map Exchange.invocation =
        noisyScripts.toolStarts false scriptFiles.toList ∧ exchanges[0]? = some e ∧
      e.lines = ["a.js: no end", "Error running 'jslint' on \"/src/a.js\": exit code 1"]) ∧
    ((lint noisyScripts { verbose := true } scriptFiles).run (scripted sources)
        chattyAnswers).events =
      .noted "linting 4 js files" ::
        ((lint noisyScripts {} scriptFiles).run (scripted sources) chattyAnswers).events := by
  obtain ⟨⟨exchanges, fixing, -, hinvocations, hreplies, -, hlines⟩, -, -, hverbose⟩ :=
    console_law noisyScripts {} scriptFiles (scripted sources) chattyAnswers
  refine ⟨?_, hverbose⟩
  have hfirst : (exchanges.map Exchange.reply)[0]? = some { result := .ok faulty } := by
    rw [hreplies]
    rfl
  rw [List.getElem?_map, Option.map_eq_some_iff] at hfirst
  obtain ⟨e, he, hreply⟩ := hfirst
  obtain ⟨problem, hwritten, hproblem⟩ := hlines 0 e he
  have hfaulty : problem = some "Error running 'jslint' on \"/src/a.js\": exit code 1" :=
    (hproblem _).mpr ⟨.ofString "/src/a.js", .exitCode 1, rfl, by decide +kernel, by decide +kernel⟩
  refine ⟨exchanges, e, hinvocations, he, ?_⟩
  rw [hwritten, hreply, hfaulty]
  decide +kernel

end Example

/-! ## 3. What processes say -/

/-- The lines that are written before anything else happens. -/
def linesAtOnce : List Event → List String
  | .noted line :: later => line :: linesAtOnce later
  | _ => []

section Splitting

variable {lines : List String} {es : List Exchange}

/-- The lines at once are those before the first exchange, since an exchange begins with a
start. -/
theorem linesAtOnce_exchanges :
    linesAtOnce (lines.map Event.noted ++ es.flatMap Exchange.events) = lines := by
  induction lines with
  | nil =>
    cases es with
    | nil => rfl
    | cons e es => rfl
  | cons line lines ih => exact congrArg (line :: ·) ih

theorem linesAtOnce_noted (lines : List String) : linesAtOnce (lines.map .noted) = lines := by
  have h : linesAtOnce (lines.map .noted ++ [].flatMap Exchange.events) = lines :=
    linesAtOnce_exchanges
  rwa [List.flatMap_nil, List.append_nil] at h

theorem started_exchanges :
    (lines.map Event.noted ++ es.flatMap Exchange.events).filterMap Event.invocation? =
      es.map Exchange.invocation := by
  have hlines (lines : List String) :
      (lines.map Event.noted).filterMap Event.invocation? = [] := by
    simp [List.filterMap_map, Function.comp_def, Event.invocation?]
  rw [List.filterMap_append, hlines, List.nil_append]
  induction es with
  | nil => rfl
  | cons e es ih =>
    rw [List.flatMap_cons, List.filterMap_append, ih, Exchange.events, List.filterMap_cons, hlines]
    rfl

/-- A start behind some lines is not among them. -/
theorem split_lines {before rest later : List Event} {i : Invocation} {reply : Reply}
    (h : lines.map .noted ++ rest = before ++ .ran i reply :: later) :
    ∃ more, before = lines.map .noted ++ more ∧ rest = more ++ .ran i reply :: later := by
  induction lines generalizing before with
  | nil => exact ⟨before, rfl, h⟩
  | cons line lines ih =>
    cases before with
    | nil => cases h
    | cons first before =>
      obtain ⟨rfl, hbefore⟩ := List.cons.inj h
      obtain ⟨more, rfl, hrest⟩ := ih hbefore
      exact ⟨more, rfl, hrest⟩

/-- **A start among exchanges** is that of one of them, with its lines right behind it. -/
theorem split_exchanges {before later : List Event} {i : Invocation} {reply : Reply}
    (h : lines.map .noted ++ es.flatMap Exchange.events = before ++ .ran i reply :: later) :
    ∃ es₁ e es₂, es = es₁ ++ e :: es₂ ∧ e.invocation = i ∧ e.reply = reply ∧
      before = lines.map .noted ++ es₁.flatMap Exchange.events ∧
      later = e.lines.map .noted ++ es₂.flatMap Exchange.events := by
  induction es generalizing lines before with
  | nil =>
    obtain ⟨more, -, hrest⟩ := split_lines h
    exact absurd hrest.symm (List.append_ne_nil_of_right_ne_nil _ (List.cons_ne_nil _ _))
  | cons e es ih =>
    obtain ⟨more, rfl, hrest⟩ := split_lines h
    rw [List.flatMap_cons, Exchange.events, List.cons_append] at hrest
    cases more with
    | nil =>
      cases hrest
      exact ⟨[], e, es, rfl, rfl, rfl, rfl, rfl⟩
    | cons first more =>
      obtain ⟨rfl, hmore⟩ := List.cons.inj hrest
      obtain ⟨es₁, e', es₂, rfl, hi, hreply, rfl, hlater⟩ := ih hmore
      exact ⟨e :: es₁, e', es₂, rfl, hi, hreply, rfl, hlater⟩

/-- What stands somewhere in two parts stands in the first, or in the second behind it. -/
theorem append_eq_append_cons {α : Type} {xs ys before later : List α} {x : α}
    (h : xs ++ ys = before ++ x :: later) :
    (∃ more, xs = before ++ x :: more) ∨ ∃ more, before = xs ++ more ∧ ys = more ++ x :: later := by
  rcases List.append_eq_append_iff.mp h with hsecond | ⟨more, hfirst, hmore⟩
  · exact .inr hsecond
  · cases more with
    | nil => exact .inr ⟨[], by rw [hfirst, List.append_nil, List.append_nil], hmore.symm⟩
    | cons y more =>
      obtain ⟨rfl, -⟩ := List.cons.inj hmore
      exact .inl ⟨more, hfirst⟩

end Splitting

section Saying

variable {c : Category} {o : LintOptions} {files : PathSet} {runner : Runner σ} {s : σ}

theorem length_fixerExchanges_le : (c.fixerExchanges o files runner s).length ≤ 1 := by
  rw [← List.length_map Exchange.invocation, c.invocations_fixerExchanges]
  exact c.length_fixerStarts_le ..

/-- **A start while linting** is one of the tool, in its place among them, with what it had to
say and one line more at most behind it; or it is the fixer's, after all of these, with no more
behind it than that it could not be started. -/
theorem lines_of_start {before later : List Event} {i : Invocation} {reply : Reply}
    (h : ((lint c o files).run runner s).events = before ++ .ran i reply :: later) :
    (before.filterMap Event.invocation? ++ [i] <+: c.toolStarts o.fix files.toList ∧
      ∃ problem : Option String,
        linesAtOnce later = c.signalLines reply.result ++ problem.toList) ∨
    (before.filterMap Event.invocation? = c.toolStarts o.fix files.toList ∧
      (∃ fixer, c.fixer = some fixer ∧ i = fixer.invocation o.fix files.toList) ∧
      later = (c.fixerLines reply.result).map .noted) := by
  rw [events_lint] at h
  obtain ⟨es₁, e, es₂, hsplit, rfl, rfl, rfl, rfl⟩ := split_exchanges h
  rw [started_exchanges, linesAtOnce_exchanges, ← c.invocations_toolExchanges o files runner s]
  rcases append_eq_append_cons hsplit with ⟨more, htool⟩ | ⟨more, rfl, hfixer⟩
  · have he : (c.toolExchanges o files runner s)[es₁.length]? = some e := by
      rw [htool, List.getElem?_append_right (Nat.le_refl _), Nat.sub_self]
      rfl
    obtain ⟨problem, hlines, -⟩ := exists_problem_line he
    refine .inl ⟨⟨more.map Exchange.invocation, ?_⟩, problem, hlines⟩
    rw [htool, List.map_append, List.map_cons, List.append_assoc]
    rfl
  · have hone : (c.fixerExchanges o files runner s).length ≤ 1 := length_fixerExchanges_le
    rw [hfixer, List.length_append, List.length_cons] at hone
    obtain rfl : more = [] := List.length_eq_zero_iff.mp (by omega)
    obtain rfl : es₂ = [] := List.length_eq_zero_iff.mp (by omega)
    have hmem : e ∈ c.fixerExchanges o files runner s := hfixer ▸ List.mem_cons_self
    have hstart := List.mem_map_of_mem (f := Exchange.invocation) hmem
    rw [c.invocations_fixerExchanges, c.mem_fixerStarts_iff] at hstart
    obtain ⟨fixer, hhas, -, hi⟩ := hstart
    rw [c.lines_of_mem_fixerExchanges o files runner s hmem]
    exact .inr ⟨by rw [List.append_nil], ⟨fixer, hhas, hi⟩, List.append_nil _⟩

end Saying

/-- **Passing on what processes say**: right behind each process whose standard error is captured
come its lines that are no noise, each once and in order. -/
def Category.PassesOn (c : Category) (events : List Event) : Prop :=
  ∀ before i reply later, events = before ++ .ran i reply :: later → i.capturesErrors = true →
    c.signalLines reply.result <+: linesAtOnce later

/-- A fixer that ran leaves no lines, so that its own are among them only if it has none. -/
theorem Category.signalLines_prefix_fixerLines_iff (c : Category)
    {result : Except StartError Output} :
    c.signalLines result <+: c.fixerLines result ↔ c.signalLines result = [] := by
  cases result with
  | ok output => exact List.prefix_nil
  | error e => exact iff_of_true List.nil_prefix rfl

/-- **What a process says is passed on if it is a tool.**  Behind each start of the tool come the
lines of its standard error that are no noise, each once and in order, and one line at most
besides; nothing of what the fixer says is written, only that it cannot be started.  So all that
is captured is passed on exactly if no fixer that captures it has anything to say. -/
theorem diagnostics_law (c : Category) (o : LintOptions) (files : PathSet) (runner : Runner σ)
    (s : σ) :
    (∀ before i reply later,
      ((lint c o files).run runner s).events = before ++ .ran i reply :: later →
      (before.filterMap Event.invocation? ++ [i] <+: c.toolStarts o.fix files.toList ∧
        ∃ problem : Option String,
          linesAtOnce later = c.signalLines reply.result ++ problem.toList) ∨
      (before.filterMap Event.invocation? = c.toolStarts o.fix files.toList ∧
        (∃ fixer, c.fixer = some fixer ∧ i = fixer.invocation o.fix files.toList) ∧
        later = (c.fixerLines reply.result).map .noted)) ∧
    (c.PassesOn ((lint c o files).run runner s).events ↔
      ∀ before i reply later,
        ((lint c o files).run runner s).events = before ++ .ran i reply :: later →
        before.filterMap Event.invocation? = c.toolStarts o.fix files.toList →
        i.capturesErrors = true → c.signalLines reply.result = []) := by
  refine ⟨fun before i reply later => lines_of_start, fun hpasses => ?_, fun hsilent => ?_⟩
  · intro before i reply later hsplit hstarted hcaptures
    have hpassed := hpasses before i reply later hsplit hcaptures
    rcases lines_of_start hsplit with ⟨htool, -⟩ | ⟨-, -, hlater⟩
    · have hlength := htool.length_le
      rw [hstarted, List.length_append] at hlength
      exact absurd hlength (Nat.not_succ_le_self _)
    · rw [hlater, linesAtOnce_noted, c.signalLines_prefix_fixerLines_iff] at hpassed
      exact hpassed
  · intro before i reply later hsplit hcaptures
    rcases lines_of_start hsplit with ⟨-, problem, hlines⟩ | ⟨hstarted, -⟩
    · rw [hlines]
      exact List.prefix_append ..
    · rw [hsilent before i reply later hsplit hstarted hcaptures]
      exact List.nil_prefix

namespace Example

/-- All scripts at once; the fixer captures what it says as well. -/
def capturedScripts : Category :=
  category "js" .batch (some { program := "jsfix", capturesErrors := true })

/-- One script. -/
def oneScript : PathSet := ⟨[.ofString "/src/a.js"], List.pairwise_singleton ..⟩

/-- The script is faulty, and cannot be fixed. -/
def unfixable : Script :=
  [{ program := some "jslint", output := { code := 1 } },
    { program := some "jsfix", output := { code := 1, stderr := "a.js: cannot fix\n" } }]

/-- Behind the tool its lines are found, but for the noise. -/
theorem diagnostics_law_chatty :
    ∃ i later,
      ((lint noisyScripts {} scriptFiles).run (scripted sources) chattyAnswers).events =
        [] ++ .ran i { result := .ok faulty } :: later ∧
      i.capturesErrors = true ∧ ∃ problem : Option String,
        linesAtOnce later = ["a.js: no end"] ++ problem.toList := by
  obtain ⟨hlines, -⟩ := diagnostics_law noisyScripts {} scriptFiles (scripted sources) chattyAnswers
  have hsaid : noisyScripts.signalLines (.ok faulty) = ["a.js: no end"] := by decide +kernel
  refine ⟨_, _, rfl, rfl, ?_⟩
  rcases hlines [] _ { result := .ok faulty } _ rfl with ⟨-, hwritten⟩ | ⟨hstarted, -⟩
  · rw [hsaid] at hwritten
    exact hwritten
  · exact absurd (congrArg List.length hstarted) (by decide +kernel)

/-- The fixer is captured and says something that is no noise, and no line is written. -/
theorem fixer_not_heard :
    capturedScripts.noise.signal "a.js: cannot fix\n" = ["a.js: cannot fix"] ∧
    ¬capturedScripts.PassesOn ((lint capturedScripts { fix := true } oneScript).run
      (scripted sources) unfixable).events ∧
    ((lint capturedScripts { fix := true } oneScript).run
      (scripted sources) unfixable).events.filterMap Event.line? = [] := by
  refine ⟨by decide +kernel, fun hpasses => ?_, rfl⟩
  have hpassed := hpasses [_] _ _ [] rfl rfl
  revert hpassed
  decide +kernel

end Example

end LintRun

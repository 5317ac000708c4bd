import LintRun.Shell.Builtin.Basic

/-!
# Jobs

Scripts in the background.  A job runs from the time of its start, at the latest when it is waited
for; what it writes takes its place in the order of time.  One that is ended by a signal has done
what it could do until then.
-/

namespace LintRun.Shell

/-! ## 1. Endings -/

/-- What is written about a program that a signal ended. -/
def signalTexts : List (Nat × String) := [
  (1, "Hangup"),
  (2, "Interrupt"),
  (3, "Quit"),
  (4, "Illegal instruction"),
  (5, "Trace/breakpoint trap"),
  (6, "Aborted"),
  (7, "Bus error"),
  (8, "Floating point exception"),
  (9, "Killed"),
  (10, "User defined signal 1"),
  (11, "Segmentation fault"),
  (12, "User defined signal 2"),
  (13, "Broken pipe"),
  (14, "Alarm clock"),
  (15, "Terminated"),
  (16, "Stack fault"),
  (24, "CPU time limit exceeded"),
  (25, "File size limit exceeded"),
  (26, "Virtual timer expired"),
  (27, "Profiling timer expired"),
  (29, "I/O possible"),
  (30, "Power failure"),
  (31, "Bad system call")]

/-- What is written about a signal. -/
def signalText (n : Nat) : Chars :=
  match signalTexts.lookup n with
  | some text => text.toList
  | none =>
    if n < 34 then "Unknown signal ".toList ++ State.decimal n
    else "Real-time signal ".toList ++ State.decimal (n - 34)

/-- The signals whose work is not told. -/
def untoldSignals : List Nat := [2, 13]

/-- Tells that a signal ended a program. -/
def tellEnding (e : Ending) : Eval PUnit :=
  match e with
  | .killed signal =>
    if untoldSignals.contains signal.number then pure () else warn (signalText signal.number)
  | .exited _ => pure ()

/-- The status that an ending leaves. -/
def statusOf (e : Ending) : Nat := e.code.toNat

/-! ## 2. Running -/

/-- Changes the job with a number. -/
def changeJob (number : Nat) (f : Job → Job) : Eval PUnit := modify fun s =>
  { s with jobs := s.jobs.map fun j => if j.number = number then f j else j }

/-- Runs a job to its end. -/
def finishJob (j : Job) : Eval Ending := do
  match j.ending? with
  | some e => return e
  | none =>
    let e ← act fun w =>
      let (e, after) := j.run { w with clock := j.started }
      (e, { after with clock := max w.clock after.clock })
    changeJob j.number ({ · with ending? := some e })
    return e

/-- Runs a job if it has come to its end by now. -/
def settleJob (j : Job) : Eval PUnit := do
  if j.ending?.isNone then
    let e? ← act fun w =>
      match Act.limited w.clock j.run { w with clock := j.started } with
      | (some e, after) => (some e, { after with clock := w.clock })
      | (none, _) => (none, w)
    changeJob j.number ({ · with ending? := e? })

/-- Runs the jobs that have come to their ends by now. -/
def settleJobs : Eval PUnit := do
  for j in (← get).jobs.reverse do settleJob j

/-- The signals that a script in the background takes no notice of. -/
def unnoticedSignals : List Nat := [2, 3]

/-- Ends a job by a signal, after what it could do until now. -/
def stopJob (n : Nat) (j : Job) : Eval PUnit := do
  if j.ending?.isNone && n != 0 && !harmlessSignals.contains n then
    let now ← act fun w => (w.clock, w)
    if now > j.started && unnoticedSignals.contains n then pure ()
    else
      let e? ← if now = j.started then pure none
        else act fun w =>
          let (e?, after) := Act.limited w.clock j.run { w with clock := j.started }
          (e?, { after with clock := w.clock })
      let killed : Ending := (Signal.ofNat? n).elim .clean .killed
      changeJob j.number ({ · with ending? := some (e?.getD killed) })

/-- Runs all jobs to their ends. -/
def finishJobs : Eval PUnit := do
  for j in (← get).jobs.reverse do
    let _ ← finishJob j

/-- The first place that no job has. -/
def freeSlot (taken : List Nat) : Nat :=
  ((List.range (taken.length + 1)).map (· + 1)).find? (!taken.contains ·) |>.getD 1

/-- Starts a job; it takes the first free place. -/
def startJob (number : Nat) (run : Act Ending) : Eval PUnit := do
  let started ← act fun w => (w.clock, w)
  modify fun s =>
    let kept := s.jobs.filter fun j => !(j.isWaited && j.ending?.isSome)
    let slot := freeSlot (kept.map (·.slot))
    { s with jobs := { slot, number, started, run } :: kept, lastJob := number }

/-! ## 3. Commands -/

/-- The job that a word with a percent sign means. -/
def jobNamed (w : Chars) : Eval Job := do
  let jobs := (← get).jobs
  let found (j? : Option Job) (message : Chars) : Eval Job :=
    match j? with
    | some j => pure j
    | none => abandon message
  match w.drop 1 with
  | [] | ['%'] | ['+'] => found jobs.head? "No current job".toList
  | ['-'] => found jobs.tail.head? "No previous job".toList
  | more =>
    let byNumber := if more.all isDecimal then jobs.find? fun j => j.slot == numberOf 10 more
      else none
    found byNumber ("No such job: ".toList ++ w)

/-- Waits for the job that a word means, and tells if a signal ended it. -/
def waitFor (w : Chars) : Eval Nat := do
  let j? ← match w with
    | '%' :: _ => some <$> jobNamed w
    | _ => do
      let number ← numberIn w
      pure ((← get).jobs.find? fun j => j.number == number)
  match j? with
  | none => return 127
  | some j =>
    let e ← finishJob j
    if !j.isWaited then tellEnding e
    changeJob j.number ({ · with isWaited := true })
    return statusOf e

/-- Waits for jobs: for those that are named, or for all. -/
def wait : Builtin := fun args => do
  let (_, words) ← optionsOf "" args
  if words.isEmpty then
    finishJobs
    modify fun s => { s with jobs := s.jobs.map ({ · with isWaited := true }) }
    leaving 0
  else
    let statuses ← words.mapM waitFor
    leaving (statuses.getLast?.getD 0)

/-- How a job is called in a listing. -/
def shownJob (all : List Job) (letters : List Char) (j : Job) : Chars :=
  if letters.getLast? = some 'p' then ended (State.decimal j.number)
  else
    let mark := if all.head?.map (·.number) = some j.number then '+'
      else if (all.drop 1).head?.map (·.number) = some j.number then '-' else ' '
    let number := if letters.contains 'l' then State.decimal j.number ++ [' '] else []
    let state := match j.ending? with
      | none => "Running".toList
      | some (.exited 0) => "Done".toList
      | some (.exited c) => "Done(".toList ++ State.decimal c.toNat ++ [')']
      | some (.killed signal) => signalText signal.number
    let text := '[' :: State.decimal j.slot ++ [']', ' ', mark, ' '] ++ number ++ state
    ended (text ++ List.replicate (max 1 (33 - text.length)) ' ')

/-- Tells the jobs, the latest first. -/
def listJobs : Builtin := fun args => do
  let (options, words) ← optionsOf "lp" args
  let jobs := (← get).jobs
  let chosen ← if words.isEmpty then pure jobs else words.mapM jobNamed
  let shown := chosen.map (shownJob jobs (options.map (·.1)))
  modify fun s => { s with jobs := s.jobs.filter fun j =>
    j.ending?.isNone || !chosen.any (·.number == j.number) }
  saying shown.flatten

/-- Brings a job to the front, which takes a terminal. -/
def takeUp : Builtin := fun args => do
  let (_, words) ← optionsOf "" args
  let w := words.headD ['%']
  let _ ← jobNamed w
  let name := if words.isEmpty then "(null)".toList else w
  abandon ("job ".toList ++ name ++ " not created under job control".toList)

end LintRun.Shell

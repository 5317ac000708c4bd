import LintRun.Shell.Builtin.Table
import LintRun.Shell.Expansion
import LintRun.Shell.Redirect

/-!
# Running commands

How each kind of command runs.  A script may loop forever, so that a run takes so many steps at
most; one that needs more is taken to last longer than anybody waits.

A command leaves a status.  Interruptions are of four kinds: the script is told to end, it ends
after its last command, something is wrong with it, or something else took its place; a command of
the interpreter that is not special keeps a fault to itself.
-/

namespace LintRun.Shell

/-- Where a command stands. -/
structure Context where
  /-- Whether a failure is looked at, so that it does not end the script. -/
  isTested : Bool := false
  /-- Whether nothing comes after it in its process. -/
  isLast : Bool := false
  /-- The texts that stand below the line. -/
  documents : Array Word := #[]
  deriving Inhabited

namespace Context

/-- The place of a command that others come after. -/
def within (c : Context) : Context := { c with isLast := false }

/-- The place of a command whose failure is looked at. -/
def tested (c : Context) : Context := { c with isTested := true, isLast := false }

end Context

/-- A simple command whose words are known. -/
structure Prepared where
  /-- The name and the arguments. -/
  given : List Chars := []
  /-- Whether the name is that of a command of the interpreter. -/
  isBuiltin : Bool := false
  /-- Whether a fault in it ends the script. -/
  isSpecial : Bool := false
  /-- Whether the assignments before it hold for it alone. -/
  isLocal : Bool := false
  /-- Whether functions are left out of account. -/
  isDirect : Bool := false
  /-- The directories that are searched instead of the listed ones. -/
  places? : Option (List Chars) := none
  deriving Inhabited

/-- Whether the streams stay as they are redirected. -/
def Prepared.isExec (p : Prepared) : Bool := p.isBuiltin && p.given.head? == some "exec".toList

/-! ## 1. Processes -/

/-- A time that nobody waits for. -/
def forever : Nat := Nat.pow 10 18

/-- Gives up for want of steps. -/
def exhausted {α : Type} : Eval α := do
  act fun w => ((), w.pass forever)
  throw .ended

/-- The state in which a part of a script starts as a process of its own. -/
def State.inner (s : State) (number : Nat) : State :=
  { s with
    number
    parent := s.number
    traps := s.traps.filter (·.2.isEmpty)
    caught := []
    savedStatus := none
    skip := .none
    loops := 0
    jobs := [] }

/-- What follows when a process has ended that was waited for. -/
def afterProcess (endings : List Ending) : Eval PUnit := do
  receiveAll
  for e in endings do tellEnding e
  settleJobs
  if ← act fun w => (w.isOver, w) then throw (.became (endings.getLast?.getD .clean))

/-- Puts streams back to where they led before. -/
def restoreStreams (before : List (Nat × Nat)) (touched : List Nat) : Eval PUnit := modify fun s =>
  let others := s.streams.filter fun x => !touched.contains x.1
  { s with streams := others ++ before.filter fun x => touched.contains x.1 }

/-- Ends calls until only so many are left. -/
def popDownTo (depth : Nat) : Eval PUnit := do
  let extra := (← get).locals.length - depth
  for _ in List.range extra do popLocals

/-- The round of a loop is over: what is passed over after it. -/
def leaveRound : Eval Skip := do
  let s ← get
  match s.skip with
  | .leave | .next =>
    if s.skipCount ≤ 1 then
      set { s with skip := .none, skipCount := 0 }
      return s.skip
    else
      set { s with skipCount := s.skipCount - 1 }
      return .leave
  | skip => return skip

/-- Whether another round of a loop may follow. -/
def Skip.goesOn (k : Skip) : Bool := k == .none || k == .next

/-- Whether something is passed over. -/
def isSkipping : Eval Bool := return (← get).skip != .none

/-- The file that a name of a script means: a path, or a file in a listed directory. -/
def scriptFor (name : Chars) : Eval Chars := do
  if name.contains '/' then return name
  else
    let tree ← place
    let candidates := (← get).searched.map fun d => if d.isEmpty then name else d ++ '/' :: name
    match candidates.find? fun p => tree.isFile (.ofChars p) with
    | some path => return path
    | none => abandon (name ++ ": not found".toList)

section

/- How programs are started: by a path. -/
variable (start : Launch)

/-- Runs a program; a file that is no program is a script. -/
def launch (path name : Chars) (args : List Chars) (number : Nat) :
    Eval (Except OsError Ending) := do
  let s ← get
  let silent := s.traps.filterMap fun (n, action) => if action.isEmpty then some n else none
  let task := { s.task name args with
    number
    parent := if number = s.number then s.parent else s.number
    ignored := s.ignored ++ silent }
  match ← act (start path task) with
  | .error .badExecutable =>
    let interpreter := "/bin/sh".toList
    act (start interpreter { task with title := interpreter, arguments := path :: args })
  | r => return r

/-- Complains that a program cannot be started; the status tells if it is there. -/
def refuse (name : Chars) (e : OsError) : Eval Nat := do
  complain (name ++ ": ".toList ++ startReason e)
  let status := match e with
    | .notFound | .notDirectory | .nameTooLong | .tooManyLinks => 127
    | _ => 126
  setStatus status
  return status

/-- Runs a program in place of the script. -/
def become (path name : Chars) (args : List Chars) : Eval Nat := do
  match ← launch start path name args (← get).number with
  | .ok e => throw (.became e)
  | .error e =>
    let _ ← refuse name e
    throw .ended

/-- Runs a program and waits for its end. -/
def runProgram (path name : Chars) (args : List Chars) : Eval Nat := do
  settleJobs
  let number ← act (fun w => w.newProcess)
  match ← launch start path name args number with
  | .ok e =>
    afterProcess [e]
    return statusOf e
  | .error e => refuse name e

/-! ## 2. Commands -/

mutual

/-- How a process ends after its last step: what was set for its end is done, and jobs come to
their ends. -/
def conclude : Nat → Except Interrupt PUnit → Eval Ending
  | 0, _ => exhausted
  | n + 1, r => do
    match r with
    | .error (.became e) =>
      finishJobs
      return e
    | r =>
      let s ← get
      let told : Bool := match r with
        | .error .exit => true
        | _ => s.skip == .back true
      let status := if told then s.savedStatus.getD s.status else s.status
      set { s with status, savedStatus := none }
      match s.traps.lookup 0 with
      | none => pure ()
      | some action =>
        modify fun s => { s with
          traps := s.traps.filter (·.1 != 0)
          skip := .none
          savedStatus := some status }
        match ← caughtStep (runText n {} action) with
        | .ok _ => setStatus status
        | .error .exit => modify fun s => { s with status := s.savedStatus.getD s.status }
        | .error (.became e) => do
          finishJobs
          throw (.became e)
        | .error _ => pure ()
      finishJobs
      return .exited (UInt8.ofNat (← get).status)

/-- Runs a step as a process of its own. -/
def processOf : Nat → Eval PUnit → State → Act Ending
  | 0, _, _ => pure .clean
  | n + 1, step, s => do
    let (r, _) ← (do conclude n (← caughtStep step) : Eval Ending).run.run s
    return match r with
      | .ok e => e
      | .error (.became e) => e
      | .error _ => .exited 2

/-- Runs a step as a process of its own and waits for its end. -/
def forked : Nat → Eval PUnit → Eval Ending
  | 0, _ => exhausted
  | n + 1, step => do
    settleJobs
    let number ← act fun w => w.newProcess
    let s ← get
    act (processOf n step (s.inner number))

/-- The output of a script without the line ends after it. -/
def outputOf : Nat → Context → Option Command → Eval Chars
  | 0, _, _ => exhausted
  | _, _, none => return []
  | n + 1, c, some body => do
    let k ← act (Act.connect .endlessSink)
    let e ← forked n do
      connectStream 1 k
      let _ ← run n { c with isLast := true, isTested := false } body
    let text ← act fun w => (w.collected k, w)
    afterProcess [e]
    modify fun s => { s with outputStatus := statusOf e }
    return ((text.filter (· != '\x00')).reverse.dropWhile (· == '\n')).reverse

/-- Runs the stages of a pipeline, each with the output of the one before as its input. -/
def stages : Nat → Context → Option Nat → List Command → Eval (List Ending)
  | 0, _, _, _ => exhausted
  | _, _, _, [] => return []
  | n + 1, c, input?, stage :: more => do
    let k? ← if more.isEmpty then pure none else some <$> act (Act.connect .freshSink)
    let e ← forked n do
      match input? with
      | some k => connectStream 0 k
      | none => pure ()
      match k? with
      | some k => connectStream 1 k
      | none => pure ()
      let _ ← run n { c with isLast := true } stage
    match k? with
    | none => return [e]
    | some k =>
      let text ← act fun w => (w.collected k, w)
      let input ← act (Act.connect (.source text))
      let others ← stages n c (some input) more
      return e :: others

/-- Runs a text line by line; each line is read when those before it have run. -/
def runText : Nat → Context → Chars → Eval Nat
  | 0, _, _ => exhausted
  | n + 1, c, text => runLines n false c ⟨text, 1⟩ 0

/-- Runs the rest of a text; a file is shown as it is read if that is asked for. -/
def runLines : Nat → (isFile : Bool) → Context → Source → Nat → Eval Nat
  | 0, _, _, _, _ => exhausted
  | n + 1, isFile, c, source, status => do
    let s ← get
    match readLine s.aliases source with
    | .error fault =>
      modify fun s => { s with line := fault.line }
      abandon fault.message.toList
    | .ok (none, _, _) => return status
    | .ok (some line, rest, isEnd) =>
      if isFile && s.has 'v' then
        let _ ← writeTo 2 (source.rest.take (source.rest.length - rest.rest.length))
      let status ← match line.command with
        | none => pure status
        | some command =>
          run n { c with documents := line.documents, isLast := c.isLast && isEnd } command
      if ← isSkipping then return status
      else if isEnd then return status
      else runLines n isFile c rest status

/-- Runs the text of a file. -/
def runFile : Nat → Chars → Eval Nat
  | 0, _ => exhausted
  | n + 1, text => do
    let status ← runLines n true {} ⟨text, 1⟩ 0
    modify fun s => match s.skip with
      | .back _ => { s with skip := .none }
      | _ => s
    return status

/-- Does what was set for the signals that have come. -/
def runTraps : Nat → Eval PUnit
  | 0 => exhausted
  | n + 1 => do
    let s ← get
    if !s.caught.isEmpty then
      let status := s.savedStatus.getD s.status
      set { s with savedStatus := some status }
      runCaught n status signalLimit
      modify fun s' => { s' with savedStatus := s.savedStatus }

/-- Does what was set for the signals that have come, in the order of their numbers, the greatest
of which are left. -/
def runCaught : Nat → (status left : Nat) → Eval PUnit
  | 0, _, _ => exhausted
  | _, _, 0 => return ()
  | n + 1, status, left + 1 => do
    let signal := signalLimit - left
    let s ← get
    if s.caught.contains signal then
      if s.skip == .none then
        set { s with caught := s.caught.filter (· != signal) }
        match s.traps.lookup signal with
        | some action =>
          let _ ← runText n {} action
          if (← get).skip != .back false then setStatus status
        | none => pure ()
        runCaught n status left
    else runCaught n status left

/-- Runs a command. -/
def run : Nat → Context → Command → Eval Nat
  | 0, _, _ => exhausted
  | n + 1, c, command => do
    if (← get).has 'n' then
      if c.isLast then throw .ended else return 0
    runTraps n
    let isWatched := !c.isTested && (← get).has 'e'
    let (status, isChecked) ← match command with
      | .simple line assignments words rs =>
        (·, true) <$> runSimple n c line assignments words rs
      | .negated body => do
        let status ← run n c.tested body
        pure (if status = 0 then 1 else 0, false)
      | .redirected line body rs => do
        modify fun s => { s with line }
        let targets ← expandTargets n c rs
        let before := (← get).streams
        let status ← match ← caughtStep (connectAll n c targets) with
          | .ok _ => run n c.within body
          | .error .fault => pure 2
          | .error i => throw i
        restoreStreams before (targets.map streamOf)
        pure (status, false)
      | .subshell line body rs => do
        modify fun s => { s with line }
        let targets ← expandTargets n c rs
        let step : Eval PUnit := do
          connectAll n c targets
          let _ ← run n { c with isLast := true } body
        if c.isLast && !(← get).hasTraps then
          step
          pure (0, true)
        else
          let e ← forked n step
          afterProcess [e]
          pure (statusOf e, true)
      | .background line body rs => do
        modify fun s => { s with line }
        let targets ← expandTargets n c rs
        let s ← get
        let number ← act fun w => w.newProcess
        let step : Eval PUnit := do
          let k ← act (Act.connect .nothing)
          connectStream 0 k
          connectAll n c targets
          let _ ← run n { c with isLast := true, isTested := false } body
        let inner := s.inner number
        startJob number
          (processOf n step { inner with ignored := unnoticedSignals ++ inner.ignored })
        pure (0, true)
      | .pipeline commands => do
        let endings ← stages n c.within none commands
        afterProcess endings
        pure ((endings.getLast?.map statusOf).getD 0, true)
      | .sequence first second => do
        let status ← run n c.within first
        if ← isSkipping then pure (status, false) else (·, false) <$> run n c second
      | .both first second => do
        let status ← run n c.tested first
        if status != 0 || (← isSkipping) then pure (status, false)
        else (·, false) <$> run n c second
      | .either first second => do
        let status ← run n c.tested first
        if status = 0 || (← isSkipping) then pure (status, false)
        else (·, false) <$> run n c second
      | .conditional test body otherwise => do
        let status ← run n c.tested test
        if ← isSkipping then pure (status, false)
        else if status = 0 then (·, false) <$> run n c body
        else
          match otherwise with
          | some other => (·, false) <$> run n c other
          | none => pure (0, false)
      | .loop stopsOn test body => do
        modify fun s => { s with loops := s.loops + 1 }
        let status ← runLoop n c.within stopsOn test body 0
        modify fun s => { s with loops := s.loops - 1 }
        pure (status, false)
      | .each line name words body => do
        modify fun s => { s with line }
        let values ← expandAll (outputOf n c) n words
        modify fun s => { s with loops := s.loops + 1 }
        let status ← forEach n c.within name values body 0
        modify fun s => { s with loops := s.loops - 1 }
        pure (status, false)
      | .choice line subject branches => do
        modify fun s => { s with line }
        let text ← plain (outputOf n c) n { homes := .atStart } subject
        (·, false) <$> chooseBranch n c text branches
      | .function _ name body => do
        modify fun s => { s with
          functions := putNamed name { body, documents := c.documents } s.functions }
        noteMissing name
        pure (0, false)
    setStatus status
    runTraps n
    if isWatched && isChecked && status != 0 then throw .ended
    if c.isLast then throw .ended
    return status

/-- Runs a loop from its next round on; `status` is that of the round before. -/
def runLoop : Nat → Context → (stopsOn : Bool) → Command → Command → Nat → Eval Nat
  | 0, _, _, _, _, _ => exhausted
  | n + 1, c, stopsOn, test, body, status => do
    let tested ← run n c.tested test
    let skip ← leaveRound
    if skip != .none then
      if skip.goesOn then runLoop n c stopsOn test body status
      else return if skip == .back false then tested else status
    else if (tested == 0) == stopsOn then return status
    else
      let status ← run n c body
      let skip ← leaveRound
      if skip.goesOn then runLoop n c stopsOn test body status else return status

/-- Runs a loop over the values that are left. -/
def forEach : Nat → Context → Chars → List Chars → Command → Nat → Eval Nat
  | 0, _, _, _, _, _ => exhausted
  | _, _, _, [], _, status => return status
  | n + 1, c, name, value :: values, body, _ => do
    assign name value
    let status ← run n c body
    let skip ← leaveRound
    if skip.goesOn then forEach n c name values body status else return status

/-- Runs the first branch one of whose globs stands for a text. -/
def chooseBranch : Nat → Context → Chars → List (List Word × Option Command) → Eval Nat
  | 0, _, _, _ => exhausted
  | _, _, _, [] => return 0
  | n + 1, c, text, (globs, body?) :: others => do
    if ← anyStandsFor n c text globs then
      match body?, (← isSkipping) with
      | some body, false => run n c body
      | _, _ => return 0
    else if ← isSkipping then return 0
    else chooseBranch n c text others

/-- Whether one of some words stands for a text as a glob. -/
def anyStandsFor : Nat → Context → Chars → List Word → Eval Bool
  | 0, _, _, _ => exhausted
  | _, _, _, [] => return false
  | n + 1, c, text, w :: ws => do
    let glob := Glob.ofWord (markedText (← bits (outputOf n c) n { homes := .atStart } true w))
    if Glob.isMatch glob text then return true else anyStandsFor n c text ws

/-- Expands the targets of redirections. -/
def expandTargets : Nat → Context → List Redirection → Eval (List Target)
  | 0, _, _ => exhausted
  | _, _, [] => return []
  | n + 1, c, r :: rs => do
    let target : Target ← match r with
      | .file stream mode word => do
        pure (.file stream mode (← plain (outputOf n c) n { homes := .atStart } word))
      | .duplicate stream word => do
        pure (.duplicate stream
          (← sourceOf (← plain (outputOf n c) n { homes := .atStart } word)))
      | .here stream document => pure (.text stream document)
    let others ← expandTargets n c rs
    return target :: others

/-- Connects streams to their targets, one after another. -/
def connectAll : Nat → Context → List Target → Eval PUnit
  | 0, _, _ => exhausted
  | _, _, [] => return ()
  | n + 1, c, target :: targets => do
    match target with
    | .file stream mode path => openStream stream mode path
    | .duplicate stream source? => duplicateStream stream source?
    | .text stream document =>
      let text ← plain (outputOf n c) n {} (c.documents.getD document [])
      connectStream stream (← act (Act.connect (.source text)))
    connectAll n c targets

/-- What the words of a simple command come to.  Words before the first that stands for anything
vanish; `command` before a name is taken away together with its options. -/
def prepare : Nat → Context → List Word → Eval Prepared
  | 0, _, _ => exhausted
  | n + 1, c, words => do
    match ← expandFirst (outputOf n c) n words with
    | ([], _) => return {}
    | (found, words) => prepareNamed n c {} none found words

/-- What the words of a simple command come to that starts with some fields. -/
def prepareNamed : Nat → Context → Prepared → (special? : Option Bool) → List Chars → List Word →
    Eval Prepared
  | 0, _, _, _, _, _ => exhausted
  | _, _, p, _, [], _ => return p
  | n + 1, c, p, special?, name :: fields, words => do
    let isFunction := !p.isDirect && ((← get).functions.lookup name).isSome
    if isFunction || !isBuiltin name then
      let others ← expandAll (outputOf n c) n words
      return { p with
        given := name :: fields ++ others
        isBuiltin := false
        isSpecial := special?.getD false
        isLocal := true }
    else
      let special := special?.getD (isSpecial name)
      let p := { p with
        isBuiltin := true, isSpecial := special, isLocal := special?.isSome || !special }
      if name != "command".toList then
        let assigns := ["export", "readonly", "local"].contains (String.ofList name)
        let others ← if assigns then expandAssigning (outputOf n c) n words
          else expandAll (outputOf n c) n words
        return { p with given := name :: fields ++ others }
      else
        let (isPlain, places?, skipped, fields, words) ←
          commandOptions n c p.places? [] fields words
        if isPlain then
          let others ← expandAll (outputOf n c) n words
          return { p with given := name :: skipped ++ fields ++ others, places? }
        else
          prepareNamed n c { p with isDirect := true, places? } (some special) fields words

/-- Takes the options after `command`: whether it is to be run itself, the directories to search,
the fields that were taken, those after them and the words that are left. -/
def commandOptions : Nat → Context → Option (List Chars) → List Chars → List Chars → List Word →
    Eval (Bool × Option (List Chars) × List Chars × List Chars × List Word)
  | 0, _, _, _, _, _ => exhausted
  | n + 1, c, places?, skipped, fields, words => do
    let (fields, words) ← match fields with
      | [] => expandFirst (outputOf n c) n words
      | _ => pure (fields, words)
    match fields with
    | [] => return (true, places?, skipped, [], words)
    | ['-', '-'] :: more =>
      let (more, words) ← match more with
        | [] => expandFirst (outputOf n c) n words
        | _ => pure (more, words)
      return (more.isEmpty, places?, skipped ++ [['-', '-']], more, words)
    | ('-' :: letter :: letters) :: more =>
      if (letter :: letters).all (· == 'p') then
        commandOptions n c (some standardPlaces) (skipped ++ ['-' :: letter :: letters]) more words
      else return (true, places?, skipped, fields, words)
    | _ => return (false, places?, skipped, fields, words)

/-- Makes the assignments before a command; each as it is shown. -/
def assignAll : Nat → Context → Prepared → List Word → Eval (List Chars)
  | 0, _, _, _ => exhausted
  | _, _, _, [] => return []
  | n + 1, c, p, w :: ws => do
    match w.assignment? with
    | none => assignAll n c p ws
    | some (name, value) =>
      let text ← plain (outputOf n c) n { homes := .inList } value
      if p.isLocal then
        keep name
        assign name text true
      else assign name text (p.isExec && p.given.length > 1)
      let others ← assignAll n c p ws
      return (name ++ '=' :: text) :: others

/-- Shows a command before it runs. -/
def showCommand : Nat → Option Nat → List Chars → Eval PUnit
  | 0, _, _ => exhausted
  | n + 1, channel?, words => do
    let s ← get
    if s.has 'x' && !s.isShowing then
      set { s with isShowing := true }
      let sign := (s.valueOf? "PS4".toList).getD []
      let start ← match readText sign with
        | .ok w => plain (outputOf n {}) n {} w
        | .error _ => pure sign
      modify fun s => { s with isShowing := false }
      match channel? with
      | some k =>
        let _ ← act (Act.attempt fun w => w.write k (start ++ ended ([' '].intercalate words)))
      | none => pure ()

/-- Runs a simple command. -/
def runSimple : Nat → Context → Nat → List Word → List Word → List Redirection → Eval Nat
  | 0, _, _, _, _, _ => exhausted
  | n + 1, c, line, assignments, words, rs => do
    modify fun s => { s with line, outputStatus := 0 }
    let p ← prepare n c words
    let depth := (← get).locals.length
    if p.isLocal then pushLocals
    let before := (← get).streams
    let targets ← expandTargets n c rs
    let touched := targets.map streamOf
    match ← caughtStep (connectAll n c targets) with
    | .error .fault =>
      if p.isSpecial then throw .fault
      restoreStreams before touched
      popDownTo depth
      return 2
    | .error i => throw i
    | .ok _ =>
      let assigned ← assignAll n c p assignments
      showCommand n (before.lookup 2) (assigned ++ p.given)
      let status ← execute n c p
      if !p.isExec then restoreStreams before touched
      popDownTo depth
      return status

/-- Runs what a prepared command means. -/
def execute : Nat → Context → Prepared → Eval Nat
  | 0, _, _ => exhausted
  | n + 1, c, p => do
    match p.given with
    | [] =>
      let status := (← get).outputStatus
      setStatus status
      return status
    | name :: args =>
      let meaning ← if p.isBuiltin then pure .builtin
        else meaningOf (!p.isDirect) p.places? name
      match meaning with
      | .builtin => runBuiltin n c p name args
      | .function f => callFunction n c f args
      | .nothing e =>
        complain (name ++ ": ".toList ++ startReason e)
        return 127
      | .program path =>
        if c.isLast && !(← get).hasTraps then become start path name args
        else runProgram start path name args

/-- Runs a function. -/
def callFunction : Nat → Context → Function → List Chars → Eval Nat
  | 0, _, _, _ => exhausted
  | n + 1, c, f, args => do
    let s ← get
    set { s with arguments := args, optionIndex := 1, optionOffset := none, loops := 0 }
    let r ← caughtStep (run n { isTested := c.isTested, documents := f.documents } f.body)
    modify fun s' => { s' with
      arguments := s.arguments
      optionIndex := s.optionIndex
      optionOffset := s.optionOffset
      loops := s.loops
      skip := match s'.skip with
        | .back _ => .none
        | k => k }
    match r with
    | .ok _ => return (← get).status
    | .error i => throw i

/-- Runs a command of the interpreter.  What it prints is written at its end. -/
def runBuiltin : Nat → Context → Prepared → Chars → List Chars → Eval Nat
  | 0, _, _, _, _ => exhausted
  | n + 1, c, p, name, args => do
    let before ← get
    set { before with command? := some name }
    let step : Eval Outcome := do
      let outcome ← runOwn n c name args
      if ← writeTo 1 outcome.text then return outcome
      else
        complain (name ++ ": I/O error".toList)
        return { outcome with status := outcome.status ||| 1 }
    match ← caughtStep step with
    | .ok outcome =>
      modify fun s => { s with command? := before.command? }
      setStatus outcome.status
      return outcome.status
    | .error .fault =>
      modify fun s => { s with command? := before.command? }
      if p.isSpecial then throw .fault
      else
        popDownTo before.locals.length
        modify fun s => { s with streams := before.streams }
        return (← get).status
    | .error i => throw i

/-- What a command of the interpreter does; some run other commands. -/
def runOwn : Nat → Context → Chars → List Chars → Eval Outcome
  | 0, _, _, _ => exhausted
  | n + 1, c, name, args => do
    match String.ofList name with
    | "eval" =>
      if args.isEmpty then leaving 0
      else leaving (← runText n { isTested := c.isTested } ([' '].intercalate args))
    | "." =>
      let (_, words) ← optionsOf "" args
      match words with
      | [] => leaving 0
      | w :: _ =>
        let path ← scriptFor w
        match ← withTask (·.readFile path) with
        | .error .isDirectory => leaving 0
        | .error e => abandon ("cannot open ".toList ++ path ++ ": ".toList ++ openReason false e)
        | .ok text =>
          modify fun s => { s with command? := some path }
          leaving (← runFile n text)
    | "exec" =>
      let (_, words) ← optionsOf "" args
      match words with
      | [] => leaving 0
      | w :: ws =>
        match ← programFor (← get).searched w with
        | .ok path => leaving (← become start path w ws)
        | .error e =>
          let _ ← refuse w e
          throw .ended
    | "command" =>
      let (options, words) ← optionsOf "pvV" args
      let letters := options.map (·.1)
      let places? := if letters.contains 'p' then some standardPlaces else none
      match words with
      | w :: _ =>
        if letters.contains 'V' then describe true places? w
        else if letters.contains 'v' then describe false places? w
        else leaving 0
      | [] => leaving 0
    | _ =>
      match builtin? name with
      | some step => step args
      | none => leaving 0

end

end

end LintRun.Shell

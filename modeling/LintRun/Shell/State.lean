import LintRun.Machine.Task
import LintRun.Shell.Cursor

/-!
# The state of a script

What a script knows and has done while it runs, how it is interrupted, and the steps that
change nothing but the state.
-/

namespace LintRun.Shell

/-! ## 1. What a script knows -/

/-- A variable. -/
structure Variable where
  value? : Option Chars := none
  isExported : Bool := false
  isReadOnly : Bool := false
  deriving Inhabited

/-- A function: what it does, and the texts that stand below it. -/
structure Function where
  body : Command
  documents : Array Word
  deriving Inhabited

/-- Commands that are passed over. -/
inductive Skip
  | none
  /-- Up to the end of loops. -/
  | leave
  /-- Up to the next round of a loop. -/
  | next
  /-- Up to the end of a function; a plain return leaves the status as it is. -/
  | back (isPlain : Bool)
  deriving DecidableEq, Inhabited

/-- A script that was started in the background. -/
structure Job where
  /-- Its place among the jobs, counted from one. -/
  slot : Nat
  number : Nat
  started : Int
  run : Act Ending
  ending? : Option Ending := none
  /-- Whether its ending has been asked for. -/
  isWaited : Bool := false

/-- Why a script does not come to its end. -/
inductive Interrupt
  /-- It was told to end. -/
  | exit
  /-- It ends after its last command or a failure. -/
  | ended
  /-- Something was wrong with it. -/
  | fault
  /-- Another program or a signal took its place. -/
  | became (e : Ending)
  deriving Inhabited

/-- What a script knows and has done. -/
structure State where
  stored : List (Chars × Variable) := []
  functions : List (Chars × Function) := []
  aliases : List (Chars × Chars) := []
  /-- What the script is called. -/
  name : Chars
  arguments : List Chars := []
  status : Nat := 0
  /-- The letters of the options that are on. -/
  options : List Char := []
  /-- The names that lead to the working directory, and the path by which it was reached. -/
  directory : List Name := []
  shownDirectory : Chars := []
  streams : List (Nat × Nat) := []
  mask : Nat := 0o022
  /-- What is done at signals, and under zero at the end. -/
  traps : List (Nat × Chars) := []
  /-- The signals that the process takes no notice of. -/
  ignored : List Nat := []
  /-- The signals that have come and are not dealt with yet. -/
  caught : List Nat := []
  /-- The status from before a trap. -/
  savedStatus : Option Nat := none
  /-- The scripts that were started in the background, latest first. -/
  jobs : List Job := []
  /-- The number of the last job, zero if there was none. -/
  lastJob : Nat := 0
  number : Nat := 1
  parent : Nat := 0
  /-- The number that the script knows its process by. -/
  rootNumber : Nat := 1
  /-- The line of the command that runs. -/
  line : Nat := 0
  /-- The interpreter's own command that runs. -/
  command? : Option Chars := none
  /-- The status of the last script whose output was asked for. -/
  outputStatus : Nat := 0
  /-- How many loops the command is inside of. -/
  loops : Nat := 0
  skip : Skip := .none
  skipCount : Nat := 0
  /-- The argument that options are taken from next, and how much of it is taken. -/
  optionIndex : Nat := 1
  optionOffset : Option Nat := none
  /-- The variables from before, one list for each function call, the innermost first. -/
  locals : List (List (Chars × Option Variable)) := []
  /-- The options from before, where they are local. -/
  localOptions : List (Option (List Char)) := []
  /-- The programs that were found by name. -/
  found : List Chars := []
  /-- Whether a command is being shown. -/
  isShowing : Bool := false

instance : Inhabited State := ⟨{ name := [] }⟩

/-- A step of a script. -/
abbrev Eval := ExceptT Interrupt (StateT State Act)

/-! ## 2. Variables -/

/-- The place of a name in a table of so many rows. -/
def tableRow (rows : Nat) (name : Chars) : Nat :=
  name.foldl (fun n c => n + c.toNat) ((name.headD '\x00').toNat * 16) % rows

/-- Named things row by row as a table of so many rows holds them. -/
def tableOrder {α : Type} (rows : Nat) (items : List (Chars × α)) : List (Chars × α) :=
  (List.range rows).flatMap fun r => items.filter fun i => tableRow rows i.1 == r

/-- How many rows the table of variables has. -/
def variableRows : Nat := 39

/-- Named things in the order of their names. -/
def byName {α : Type} (items : List (Chars × α)) : List (Chars × α) :=
  items.mergeSort fun a b => !decide (b.1 < a.1)

/-- Gives a name another meaning, in its old place if it had one. -/
def putNamed {α : Type} (name : Chars) (x : α) : List (Chars × α) → List (Chars × α)
  | [] => [(name, x)]
  | (n, y) :: rest => if n = name then (n, x) :: rest else (n, y) :: putNamed name x rest

namespace State

/-- Whether an option is on. -/
def has (s : State) (letter : Char) : Bool := s.options.contains letter

/-- The variable with a name. -/
def stored? (s : State) (name : Chars) : Option Variable := s.stored.lookup name

/-- The value of a variable. -/
def valueOf? (s : State) (name : Chars) : Option Chars :=
  (s.stored? name).bind (·.value?)

/-- The state with a variable. -/
def withVariable (s : State) (name : Chars) (v : Variable) : State :=
  { s with stored := putNamed name v s.stored }

/-- The separators of fields. -/
def separators (s : State) : Chars := (s.valueOf? "IFS".toList).getD [' ', '\t', '\n']

/-- What stands between arguments that are taken as one text. -/
def joiner (s : State) : Chars :=
  match s.valueOf? "IFS".toList with
  | none => [' ']
  | some cs => cs.take 1

/-- Arguments as one text. -/
def joinedArguments (s : State) : Chars := s.joiner.intercalate s.arguments

/-- The letters of options in the order in which they are shown. -/
def optionLetters : List Char := ['p', 'u', 'b', 'a', 'C', 'E', 'V', 'v', 'x', 's', 'n', 'm', 'i',
  'I', 'f', 'e']

/-- A number as text. -/
def decimal (n : Nat) : Chars := (toString n).toList

/-- The value of a parameter, if it has one. -/
def parameter? (s : State) (name : Chars) : Option Chars :=
  match name with
  | ['@'] | ['*'] => some s.joinedArguments
  | ['#'] => some (decimal s.arguments.length)
  | ['?'] => some (decimal s.status)
  | ['$'] => some (decimal s.rootNumber)
  | ['-'] => some (optionLetters.filter s.has)
  | ['!'] => if s.lastJob = 0 then none else some (decimal s.lastJob)
  | c :: cs =>
    if isDecimal c then
      match numberOf 10 (c :: cs) with
      | 0 => some s.name
      | n + 1 => s.arguments[n]?
    else s.valueOf? name
  | [] => none

/-- The variables that programs are given. -/
def environment (s : State) : List (Chars × Chars) :=
  (tableOrder variableRows s.stored).filterMap fun (name, v) =>
    if v.isExported then v.value?.map (name, ·) else none

/-- The files seen from the working directory. -/
def task (s : State) (title : Chars) (arguments : List Chars) : Task where
  title
  arguments
  environment := s.environment
  directory := s.directory
  streams := s.streams
  mask := s.mask
  number := s.number
  parent := s.parent
  ignored := s.ignored

/-- Whether anything is to be done at a signal or at the end. -/
def hasTraps (s : State) : Bool := s.traps.any fun t => !t.2.isEmpty

end State

/-! ## 3. Steps -/

/-- A step in the world. -/
def act {α : Type} (a : Act α) : Eval α := fun s w =>
  let (x, w) := a w
  ((.ok x, s), w)

/-- A step in the world by the script's own process. -/
def withTask {α : Type} (f : Task → Act α) : Eval α := do
  let s ← get
  act (f (s.task s.name []))

/-- The files seen from the working directory. -/
def place : Eval Tree := withTask Task.tree

/-- Leaves a status. -/
def setStatus (n : Nat) : Eval PUnit := modify fun s => { s with status := n }

/-- The signal that ends a process whose reader is gone. -/
def pipeSignal : Nat := 13

/-- Ends the process by a signal. -/
def dieOf {α : Type} (signal : Nat) : Eval α :=
  throw (.became ((Signal.ofNat? signal).elim .clean .killed))

/-- Writes a text to a stream, and tells whether that was possible. -/
def writeTo (stream : Nat) (text : Chars) : Eval Bool := do
  match ← withTask (·.write stream text) with
  | .ok _ => return true
  | .error .brokenPipe =>
    if (← get).ignored.contains pipeSignal then return false else dieOf pipeSignal
  | .error _ => return false

/-- What stands before a complaint. -/
def State.messageStart (s : State) : Chars :=
  let command := match s.command? with
    | some c => c ++ [':', ' ']
    | none => []
  s.name ++ ": ".toList ++ State.decimal s.line ++ ": ".toList ++ command

/-- Writes a complaint of the script. -/
def complain (message : Chars) : Eval PUnit := do
  let _ ← writeTo 2 ((← get).messageStart ++ message ++ ['\n'])

/-- Complains and gives up what is being done. -/
def abandon {α : Type} (message : Chars) : Eval α := do
  setStatus 2
  complain message
  throw .fault

/-- Complains about a text that is no number. -/
def abandonNumber {α : Type} (text : Chars) : Eval α :=
  abandon ("Illegal number: ".toList ++ text)

/-! ## 4. Changing variables -/

/-- The greatest number that counts and statuses may have. -/
def countLimit : Nat := 2147483647

/-- The number that an argument asks for. -/
def numberIn (text : Chars) : Eval Nat :=
  if !text.isEmpty && text.all isDecimal && numberOf 10 text ≤ countLimit then
    return numberOf 10 text
  else abandonNumber text

/-- What follows from another value of a variable. -/
def noteChange (name : Chars) (value? : Option Chars) : Eval PUnit :=
  match String.ofList name with
  | "OPTIND" => do
    let n ← numberIn ((value?.getD []))
    modify fun s => { s with optionIndex := max n 1, optionOffset := none }
  | "PATH" => modify fun s => { s with found := [] }
  | _ => pure ()

/-- Gives a variable a value, and perhaps passes it on to programs. -/
def assign (name value : Chars) (isExported : Bool := false) : Eval PUnit := do
  let s ← get
  let v := (s.stored? name).getD {}
  if v.isReadOnly then abandon (name ++ ": is read only".toList)
  else
    set (s.withVariable name
      { v with value? := some value, isExported := v.isExported || isExported || s.has 'a' })
    noteChange name (some value)

/-- The variables that are known without a value too. -/
def lastingNames : List String := [
  "IFS", "MAIL", "MAILPATH", "PATH", "PS1", "PS2", "PS4", "OPTIND", "TERM", "HISTSIZE"]

/-- Takes a variable away. -/
def unsetVariable (name : Chars) : Eval PUnit := do
  let s ← get
  if ((s.stored? name).getD {}).isReadOnly then abandon (name ++ ": is read only".toList)
  else
    if lastingNames.contains (String.ofList name) then
      let cleared (v : Chars × Variable) : Chars × Variable :=
        if v.1 = name then (name, { v.2 with value? := none }) else v
      set { s with stored := s.stored.map cleared }
    else set { s with stored := s.stored.filter (·.1 != name) }
    if name = "PATH".toList then modify fun s => { s with found := [] }

/-- Keeps the variable with a name until the end of the innermost call. -/
def keep (name : Chars) : Eval PUnit := modify fun s =>
  match s.locals with
  | [] => s
  | frame :: frames =>
    if frame.any (·.1 == name) then s
    else { s with locals := ((name, s.stored? name) :: frame) :: frames }

/-- Starts a call with variables of its own. -/
def pushLocals : Eval PUnit := modify fun s =>
  { s with locals := [] :: s.locals, localOptions := none :: s.localOptions }

/-- The variables with one as it was before. -/
def restored (stored : List (Chars × Variable)) (before : Chars × Option Variable) :
    List (Chars × Variable) :=
  match before with
  | (name, some v) => putNamed name v stored
  | (name, none) => stored.filter (·.1 != name)

/-- Ends a call with variables of its own. -/
def popLocals : Eval PUnit := modify fun s =>
  match s.locals with
  | [] => s
  | frame :: frames =>
    let touchesPath := frame.any (·.1 == "PATH".toList)
    { s with
      stored := frame.foldl restored s.stored
      locals := frames
      options := ((s.localOptions.head?.getD none).getD s.options)
      localOptions := s.localOptions.tail
      found := if touchesPath then [] else s.found }

/-- Does something and hands its interruption back. -/
def caughtStep {α : Type} (step : Eval α) : Eval (Except Interrupt α) := fun s => do
  let (r, s) ← step s
  pure (.ok r, s)

end LintRun.Shell

import LintRun.Shell.Builtin.Basic
import LintRun.Shell.Jobs

/-!
# Signals

The commands that send signals and say what is done when one comes.  A signal that comes to the
script itself is dealt with at once if it ends the process; else it is noted, and what was set for
it is done before the next command.
-/

namespace LintRun.Shell

/-! ## 1. Names -/

/-- The greatest number of a signal. -/
def signalLimit : Nat := 64

/-- The first of the signals that are named after the first or the last of their kind. -/
def realTimeStart : Nat := 34

/-- The name of a signal; zero stands for the end of the script. -/
def signalName (n : Nat) : Chars :=
  if n = 0 then "EXIT".toList
  else
    match signalNames.find? fun s => s.2 == n with
    | some (name, _) => name.toList
    | none =>
      if n < realTimeStart then State.decimal n
      else if n = realTimeStart then "RTMIN".toList
      else if n ≤ 49 then "RTMIN+".toList ++ State.decimal (n - realTimeStart)
      else if n < signalLimit then "RTMAX-".toList ++ State.decimal (signalLimit - n)
      else "RTMAX".toList

/-- The signal that a number spells. -/
def signalByNumber? (w : Chars) : Option Nat :=
  if !w.isEmpty && w.all isDecimal && numberOf 10 w ≤ signalLimit then some (numberOf 10 w)
  else none

/-- The signal that a number or a name means, names from a given number on. -/
def signal? (least : Nat) (w : Chars) : Option Nat :=
  match signalByNumber? w with
  | some n => some n
  | none =>
    let wanted := w.map Char.toUpper
    ((List.range (signalLimit + 1)).drop least).find? fun n => signalName n == wanted

/-! ## 2. Coming signals -/

/-- The signal that nothing can be done about. -/
def fatalSignal : Nat := 9

/-- Takes notice of a signal: it is kept for what was set for it, passed over, or ends the
process.  Zero is no signal. -/
def receive (n : Nat) : Eval PUnit := do
  let s ← get
  match if n = fatalSignal then none else s.traps.lookup n with
  | some action =>
    if !action.isEmpty then set { s with caught := s.caught ++ [n] }
  | none =>
    let isPassedOver := n = 0 || harmlessSignals.contains n ||
      (n != fatalSignal && s.ignored.contains n)
    if isPassedOver then pure () else dieOf n

/-- Takes notice of the signals that other processes have sent. -/
def receiveAll : Eval PUnit := do
  let number := (← get).number
  let mine ← act fun w =>
    let (mine, others) := w.signals.partition (·.1 == number)
    (mine, { w with signals := others })
  for (_, n) in mine do receive n

/-! ## 3. Sending -/

/-- Sends a signal to a process, if there is such a process. -/
def send (n target : Nat) : Eval Bool := do
  let s ← get
  if target = s.number then
    receive n
    return true
  else if target = s.rootNumber || target = s.parent then
    act fun w => ((), w.send target n)
    return true
  else
    match s.jobs.find? fun j => j.number == target with
    | some j =>
      if j.isWaited then return false
      else
        stopJob n j
        return true
    | none => return target ≤ 1

/-- What is said about how the command is used. -/
def killUsage : Chars :=
  "Usage: kill [-s sigspec | -signum | -sigspec] [pid | job]... or\nkill -l [exitstatus]".toList

/-- Tells the names of signals. -/
def listSignals (words : List Chars) : Eval Outcome := do
  match words with
  | [] =>
    saying (ended ['0'] ++
      ((List.range signalLimit).flatMap fun k => ended (signalName (k + 1))))
  | w :: _ =>
    let n ← numberIn w
    let n := if n > 128 then n - 128 else n
    if 0 < n && n ≤ signalLimit then saying (ended (signalName n))
    else abandon ("invalid signal number or exit status: ".toList ++ w)

/-- Sends a signal to the process or job that a word means. -/
def sendTo (n : Nat) (w : Chars) : Eval Bool := do
  let isThere ← match w with
    | '%' :: _ => do
      let _ ← jobNamed w
      pure false
    | '-' :: more => do
      let _ ← numberIn more
      pure false
    | _ => do send n (← numberIn w)
  if !isThere then complain "No such process\n".toList
  return isThere

/-- Sends a signal, the fifteenth unless another is named. -/
def kill : Builtin := fun args => do
  let dashed := match args with
    | ('-' :: w) :: _ => signal? 1 w
    | _ => none
  let (n?, isList, words) ← match dashed with
    | some n => pure (some n, false, args.drop 1)
    | none => do
      let (options, words) ← optionsOf "ls:" args
      let mut n? : Option Nat := none
      for (letter, value) in options do
        if letter = 's' then
          match signal? 1 value with
          | some n => n? := some n
          | none => abandon ("invalid signal number or name: ".toList ++ value)
      pure (n?, options.any (·.1 == 'l'), words)
  if isList then
    if n?.isSome then abandon killUsage
    listSignals words
  else if words.isEmpty then abandon killUsage
  else
    let results ← words.mapM (sendTo (n?.getD 15))
    leaving (if results.all id then 0 else 1)

/-! ## 4. What is done at signals -/

/-- Sets what is done at one signal. -/
def setTrap (n : Nat) (action? : Option Chars) : Eval PUnit := modify fun s =>
  let others := s.traps.filter (·.1 != n)
  match action? with
  | some action => { s with traps := (n, action) :: others }
  | none => { s with traps := others }

/-- Sets what is done at some signals, up to one that there is not. -/
def setTraps (action? : Option Chars) : List Chars → Eval Outcome
  | [] => leaving 0
  | w :: ws => do
    match signal? 0 w with
    | some n =>
      setTrap n action?
      setTraps action? ws
    | none =>
      warn ("trap: ".toList ++ w ++ ": bad trap".toList)
      leaving 1

/-- Sets or tells what is done at signals. -/
def trap : Builtin := fun args => do
  let (_, words) ← optionsOf "" args
  match words with
  | [] =>
    let s ← get
    saying ((List.range (signalLimit + 1)).flatMap fun n =>
      match s.traps.lookup n with
      | some action =>
        ended ("trap -- ".toList ++ singleQuoted action ++ ' ' :: signalName n)
      | none => [])
  | first :: names =>
    if names.isEmpty || (signalByNumber? first).isSome then setTraps none words
    else setTraps (if first = ['-'] then none else some first) names

end LintRun.Shell

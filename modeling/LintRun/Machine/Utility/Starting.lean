import LintRun.Machine.Utility.Basic
import LintRun.Decimal.Notation
import LintRun.Text.Pieces

/-!
# Utilities that start others

Programs that change something about a process and then start a program in it.
-/

namespace LintRun.Utility

/-- Sets a variable, in its old place if it had one. -/
def withVariable (vs : List (Chars × Chars)) (name value : Chars) : List (Chars × Chars) :=
  if (vs.lookup name).isSome then vs.map fun v => if v.1 = name then (name, value) else v
  else vs ++ [(name, value)]

/-- A name and a value as they are written. -/
def assignment (v : Chars × Chars) : Chars := v.1 ++ '=' :: v.2

/-- The code of a utility that cannot start a program. -/
def startFailure (e : OsError) : Nat :=
  match e with
  | .notFound => 127
  | _ => 126

/-- A duration in nanoseconds, with its unit. -/
def duration? (w : Chars) : Option Nat :=
  match Quantity.ofChars? 64 w with
  | some (.finite false n d, rest) =>
    let unit? : Option Nat := match rest with
      | [] | ['s'] => some 1
      | ['m'] => some 60
      | ['h'] => some 3600
      | ['d'] => some 86400
      | _ => none
    unit?.map fun u => n * u * 1000000000 / d
  | some (.infinite false, []) => some (Nat.pow 10 18)
  | _ => none

/-- Lets time pass. -/
def sleep : Utility := fun t => do
  let fs ← flagsOf t 1 []
  if fs.operands.isEmpty then missingOperand t 1
  let wrong := fs.operands.filter fun w => (duration? w).isNone
  for w in wrong do complain t ("invalid time interval ".toList ++ Quoting.plainly w)
  if !wrong.isEmpty then
    Step.act (t.put 2 ("Try '".toList ++ t.title ++ " --help' for more information.\n".toList))
    Step.exit 1
  Step.act fun w => ((), w.pass ((fs.operands.filterMap duration?).foldl (· + ·) 0))
  return 0

section

/- How programs are started by name. -/
variable (start : Launch)

/-- Starts a program in place of the utility, or complains that it cannot be started. -/
def becomeNamed (t : Task) (complaint : Chars → Chars) : List Chars → Step Nat
  | [] => return 0
  | name :: args => do
    match ← Step.act (start name { t with title := name, arguments := args }) with
    | .ok e => throw e
    | .error e =>
      complain t (complaint name ++ ": ".toList ++ e.reason.toList)
      return startFailure e

/-- Starts a program with other variables; without a program, writes the variables.  `-i` begins
with none, `-u` takes one away, `-C` goes to a directory, and `-S` cuts a text into words. -/
def env : Utility := fun t => do
  let known := ["i,ignore-environment", "0,null", "u,unset=", "C,chdir=", "S,split-string=",
    "v,debug"]
  let fs ← flagsOf t 125 known false
  let isGap (c : Char) : Bool := c == ' ' || c == '\t'
  let words := (fs.values "S").flatMap (runs isGap) ++ fs.operands
  let (dashes, words) := words.span (· == ['-'])
  let vs := if fs.has "i" || !dashes.isEmpty then [] else t.environment
  let vs := vs.filter fun v => !(fs.values "u").contains v.1
  let settings := words.takeWhile (·.contains '=')
  let vs := settings.foldl (fun vs w =>
    withVariable vs (w.takeWhile (· != '=')) ((w.dropWhile (· != '=')).drop 1)) vs
  let words := words.drop settings.length
  if words.isEmpty then
    print t (vs.flatMap fun v => assignment v ++ [if fs.has "0" then '\x00' else '\n'])
    return 0
  let tree ← Step.act t.tree
  let directory ← match fs.value? "C" with
    | none => pure t.directory
    | some d =>
      match tree.enter (.ofChars d) with
      | .ok there => pure there.directory
      | .error e =>
        complainOf t "cannot change directory to ".toList d e
        Step.exit 125
  becomeNamed start { t with environment := vs, directory } Quoting.quoted words

/-- Starts a program that is ended after a time. -/
def timeout : Utility := fun t => do
  let known := ["k,kill-after=", "s,signal=", "v,verbose", "preserve-status", "foreground"]
  let fs ← flagsOf t 125 known false
  match fs.operands with
  | [] => missingOperand t 125
  | [_] => missingOperand t 125
  | limit :: name :: args =>
    match duration? limit with
    | none =>
      misuse t 125 ("invalid time interval ".toList ++ Quoting.plainly limit)
    | some span =>
      let now ← Step.act fun w => (w.clock, w)
      let run : Act (Except OsError Ending) :=
        start name { t with title := name, arguments := args }
      let r ← Step.act (if span = 0 then some <$> run else Act.limited (now + span) run)
      match r with
      | some (.ok (.killed signal)) => return 128 + signal.number
      | some (.ok e) => throw e
      | some (.error e) =>
        complain t ("failed to run command ".toList ++ Quoting.quoted name ++ ": ".toList ++
          e.reason.toList)
        return startFailure e
      | none =>
        let number := ((fs.value? "s").bind signalNumber?).getD 15
        if number = 9 then return 137
        else if fs.has "preserve-status" then return 128 + number
        else return 124
where
  signalNumber? (w : Chars) : Option Nat :=
    let w := w.map Char.toUpper
    let w := if "SIG".toList.isPrefixOf w then w.drop 3 else w
    if w.all isDecimal then some (numberOf 10 w) else signalNames.lookup (String.ofList w)

/-- Starts a program that gives way to others. -/
def nice : Utility := fun t => do
  let fs ← flagsOf t 125 ["n,adjustment="] false
  if fs.operands.isEmpty then
    printLine t ['0']
    return 0
  becomeNamed start t Quoting.quoted fs.operands

/-- Starts a program that takes no notice of hangups. -/
def nohup : Utility := fun t => do
  let fs ← flagsOf t 125 [] false
  if fs.operands.isEmpty then missingOperand t 125
  becomeNamed start { t with ignored := 1 :: t.ignored }
    (fun name => "failed to run command ".toList ++ Quoting.quoted name) fs.operands

/-- The words of a text, in which quotes and backslashes keep blanks. -/
def quotedWords : Nat → (current : Option Chars) → Chars → List Chars
  | 0, current, _ => current.toList
  | _, current, [] => (current.map List.reverse).toList
  | n + 1, current, c :: cs =>
    if c == ' ' || c == '\t' || c == '\n' then
      (current.map List.reverse).toList ++ quotedWords n none cs
    else if c == '\'' || c == '"' then
      let inside := cs.takeWhile (· != c)
      quotedWords n (some (inside.reverse ++ current.getD [])) (cs.drop (inside.length + 1))
    else if c == '\\' then
      quotedWords n (some (cs.take 1 ++ current.getD [])) (cs.drop 1)
    else quotedWords n (some (c :: current.getD [])) cs

/-- Words in groups of at most so many. -/
def grouped (size : Nat) : Nat → List Chars → List (List Chars)
  | 0, _ => []
  | n + 1, ws => if ws.isEmpty then [] else ws.take size :: grouped size n (ws.drop size)

/-- The code after one start of a program for many. -/
def groupCode (before : Nat) (e : Ending) : Nat :=
  match e with
  | .exited 0 => before
  | .exited 255 => 124
  | .exited _ => 123
  | .killed _ => 125

/-- A text with each place of a mark taken by another text. -/
def replaced (mark text : Chars) : Nat → Chars → Chars
  | 0, cs => cs
  | _, [] => []
  | n + 1, c :: cs =>
    if mark.isPrefixOf (c :: cs) && !mark.isEmpty then
      text ++ replaced mark text n ((c :: cs).drop mark.length)
    else c :: replaced mark text n cs

/-- Starts a program once for each group of words. -/
def startGroups (t : Task) (shows : Bool) (code : Nat) : List (List Chars) → Step Nat
  | [] => return code
  | [] :: more => startGroups t shows code more
  | (name :: args) :: more => do
    if shows then Step.act (t.put 2 ([' '].intercalate (name :: args) ++ ['\n']))
    let input ← Step.act (Act.connect .nothing)
    let inner := { t with
      title := name
      arguments := args
      streams := (0, input) :: t.streams.filter (·.1 != 0) }
    match ← Step.act (start name inner) with
    | .error e =>
      complain t (name ++ ": ".toList ++ e.reason.toList)
      return startFailure e
    | .ok e =>
      match e with
      | .exited 255 =>
        complain t (name ++ ": exited with status 255; aborting".toList)
        return 124
      | .killed signal =>
        complain t (name ++ ": terminated by signal ".toList ++ digits signal.number)
        return 125
      | e => startGroups t shows (groupCode code e) more

/-- Starts a program with words from the input as further arguments. -/
def xargs : Utility := fun t => do
  let known := ["0,null", "d,delimiter=", "I=", "i,replace[", "n,max-args=", "L,max-lines=",
    "r,no-run-if-empty", "t,verbose", "P,max-procs=", "a,arg-file=", "x,exit", "s,max-chars="]
  let fs ← flagsOf t 1 known false
  let text ← match ← Step.act (match fs.value? "a" with
      | some file => t.readFile file
      | none => t.takeAll 0) with
    | .ok text => pure text
    | .error _ => pure []
  let command := if fs.operands.isEmpty then ["echo".toList] else fs.operands
  let cut (c : Char) : List Chars :=
    let parts := pieces (· == c) text
    if parts.getLast? = some [] then parts.dropLast else parts
  let delimiter? : Option Char := match fs.value? "d" with
    | some ['\\', 'n'] => some '\n'
    | some ['\\', 't'] => some '\t'
    | some ['\\', '0'] => some '\x00'
    | some (c :: _) => some c
    | _ => if fs.has "0" then some '\x00' else none
  let words (line : Chars) : List Chars := quotedWords (line.length + 1) none line
  let number (key : String) : Option Nat := (fs.value? key).map (numberOf 10)
  let mark? := (fs.value? "I").or ((fs.value? "i").map fun m =>
    if m.isEmpty then "\x7b\x7d".toList else m)
  let groups : List (List Chars) := match mark? with
    | some mark =>
      let rows := match delimiter? with
        | some c => cut c
        | none => ((rowsOf text).map fun (r : Chars) => r.dropWhile isBlankChar).filter (!·.isEmpty)
      rows.map fun (r : Chars) => command.map fun (w : Chars) => replaced mark r (w.length + 1) w
    | none =>
      let all := match delimiter? with
        | some c => cut c
        | none => words text
      let parts := match number "L", number "n" with
        | some k, _ =>
          let rows := (rowsOf text).filter fun (r : Chars) => !(words r).isEmpty
          (grouped k rows.length rows).map fun (g : List Chars) => g.flatMap words
        | none, some k => grouped k all.length all
        | none, none => if all.isEmpty then [] else [all]
      if parts.isEmpty then if fs.has "r" then [] else [command] else parts.map (command ++ ·)
  startGroups start t (fs.has "t") 0 groups

end

end LintRun.Utility

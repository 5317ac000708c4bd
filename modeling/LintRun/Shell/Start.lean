import LintRun.Shell.Evaluation

/-!
# The interpreter as a program

The interpreter runs the script that is its argument, that is in the file it is given, or that is
its input.  It takes over the variables it is given, except for those that every script starts
with anew.

This is what `Machine.runner` starts for a script, and the only use that is made of the interpreter.
-/

namespace LintRun.Shell

/-- The variables that a script starts with. -/
def firstVariables : List (Chars × Variable) :=
  [("IFS", " \t\n"), ("OPTIND", "1"), ("PATH",
    "/usr/local/sbin:/usr/local/bin:/usr/sbin:/usr/bin:/sbin:/bin"), ("PS1", "# "), ("PS2", "> "),
    ("PS4", "+ ")].map fun (name, value) => (name.toList, { value? := some value.toList })

/-- The variables that keep their first values whatever is given. -/
def resetNames : List String := ["IFS", "OPTIND"]

/-- Takes a given variable over. -/
def takeVariable (vs : List (Chars × Variable)) (given : Chars × Chars) :
    List (Chars × Variable) :=
  let (name, value) := given
  if !isName name then vs
  else
    let kept := if resetNames.contains (String.ofList name) then
        ((vs.lookup name).bind (·.value?)).getD value
      else value
    putNamed name { value? := some kept, isExported := true } vs

/-- The path of the working directory: the given one if it leads there, else that without
links. -/
def startPath (tree : Tree) (given? : Option Chars) : Chars :=
  let physical := physicalPath tree.directory
  match given? with
  | some path =>
    match path, tree.locate true (.ofChars path) with
    | '/' :: _, .ok ⟨names, .directory _⟩ => if names = tree.directory then path else physical
    | _, _ => physical
  | none => physical

/-- The state in which a script starts. -/
def State.initial (t : Task) (tree : Tree) : State :=
  let vs := t.environment.foldl takeVariable firstVariables
  let vs := putNamed "PPID".toList { value? := some (State.decimal t.parent) } vs
  let path := startPath tree ((vs.lookup "PWD".toList).bind (·.value?))
  { stored := putNamed "PWD".toList { value? := some path, isExported := true } vs
    name := t.title
    directory := t.directory
    shownDirectory := path
    streams := t.streams
    mask := t.mask
    ignored := t.ignored
    number := t.number
    rootNumber := t.number
    parent := t.parent }

section

/- How programs are started: by a path. -/
variable (start : Launch)

/-- How many steps a script may take. -/
def stepLimit : Nat := 1000000

/-- Runs the script that the options and arguments ask for. -/
def runAsked (args : List Chars) : Eval PUnit := do
  let (text, asks, left) ← switchAll true true [] args
  let _ ← writeTo 1 text
  let words := left.getD []
  let readsInput := (← get).has 's'
  if asks then
    match words with
    | [] => abandon "-c requires an argument".toList
    | script :: more =>
      modify fun s => { s with name := more.headD s.name, arguments := more.tail }
      let _ ← runText start stepLimit { isLast := !readsInput } script
      if readsInput then fromInput
  else
    match words, readsInput with
    | [], _ =>
      switch true 's'
      fromInput
    | _, true =>
      modify fun s => { s with arguments := words }
      fromInput
    | file :: more, false =>
      match ← withTask (·.readFile file) with
      | .error .isDirectory => modify fun s => { s with name := file, arguments := more }
      | .error e =>
        abandon ("cannot open ".toList ++ file ++ ": ".toList ++ openReason false e)
      | .ok text =>
        modify fun s => { s with name := file, arguments := more }
        let _ ← runFile start stepLimit text
where
  fromInput : Eval PUnit := do
    match ← withTask (·.takeAll 0) with
    | .error _ => pure ()
    | .ok text =>
      let _ ← runFile start stepLimit text

/-- The interpreter. -/
def interpreter : Program := fun t w =>
  processOf start stepLimit (runAsked start t.arguments) (State.initial t (w.tree t.directory)) w

end

end LintRun.Shell

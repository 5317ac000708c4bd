import LintRun.Shell.Builtin.Basic

/-!
# Variables of a script

The commands that mark variables, keep them for the time of a call and take them away.
-/

namespace LintRun.Shell

/-- Marks a variable, with or without a new value. -/
def declareOne (mark : Variable → Variable) (w : Chars) : Eval PUnit := do
  let (name, value?) := splitAssignment w
  let s ← get
  match value?, s.stored? name with
  | none, some v => set (s.withVariable name (mark v))
  | none, none =>
    if isName name then set (s.withVariable name (mark {})) else abandonName name
  | some value, _ =>
    if !isName name then abandonName name
    assign name value
    modify fun s => s.withVariable name (mark ((s.stored? name).getD {}))

/-- Marks variables; without names it tells which ones have the mark. -/
def declare (title : String) (has : Variable → Bool) (mark : Variable → Variable) : Builtin :=
  fun args => do
    let (options, names) ← optionsOf "p" args
    if options.isEmpty && !names.isEmpty then
      for w in names do declareOne mark w
      leaving 0
    else
      let marked := (byName (← get).stored).filter (has ·.2)
      saying (marked.flatMap fun (name, v) =>
        shownAssignment (title ++ " ").toList name v.value?)

/-- Passes variables on to programs. -/
def declareExported : Builtin := declare "export" (·.isExported) ({ · with isExported := true })

/-- Makes variables keep their values. -/
def declareReadOnly : Builtin := declare "readonly" (·.isReadOnly) ({ · with isReadOnly := true })

/-- Keeps a variable until the end of the call, with or without a new value. -/
def declareLocalOne (w : Chars) : Eval PUnit := do
  if w = ['-'] then
    modify fun s => { s with
      localOptions := (some ((s.localOptions.head?.getD none).getD s.options)) ::
        s.localOptions.tail }
  else
    let (name, value?) := splitAssignment w
    let before := (← get).stored? name
    keep name
    match value?, before with
    | some value, _ => assign name value
    | none, some _ => pure ()
    | none, none =>
      if isName name then modify fun s => s.withVariable name {} else abandonName name

/-- Keeps variables until the end of the call. -/
def declareLocal : Builtin := fun names => do
  if (← get).locals.isEmpty then abandon "not in a function".toList
  for w in names do declareLocalOne w
  leaving 0

/-- Takes variables or functions away. -/
def unsetNames : Builtin := fun args => do
  let (options, names) ← optionsOf "vf" args
  let isOfFunctions := (options.getLast?.map (·.1)) == some 'f'
  for name in names do
    if isOfFunctions then
      modify fun s => { s with functions := s.functions.filter (·.1 != name) }
    else if isName name then unsetVariable name
    else abandonName name
  leaving 0

end LintRun.Shell

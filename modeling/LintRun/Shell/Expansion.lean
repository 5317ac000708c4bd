import LintRun.Shell.Builtin.Basic
import LintRun.Shell.Fields
import LintRun.Shell.Arithmetic

/-!
# Expanding words

What the pieces of a word stand for: parameters, the values of expressions, the output of other
scripts.  The result is a list of bits, from which `wordsOf` and `fields` make words.
-/

namespace LintRun.Shell

/-- Where a tilde stands for a home directory. -/
inductive Homes
  | nowhere
  | atStart
  /-- At the start and after each colon. -/
  | inList
  deriving DecidableEq, Inhabited

/-- How a word is expanded. -/
structure Manner where
  /-- Whether it becomes as many words as there are fields. -/
  isFull : Bool := false
  /-- Whether it takes the place of a parameter, so that its bare text is cut too. -/
  isInside : Bool := false
  homes : Homes := .nowhere
  deriving Inhabited

/-! ## 1. Texts as bits -/

/-- A text from outside: in quotes it stands for itself. -/
def valueBits (isQuoted : Bool) (text : Chars) : List Bit :=
  if isQuoted then text.map (.char true false)
  else .seam :: text.map (.char false true)

/-- A text of the script. -/
def literalBits (m : Manner) (isQuoted : Bool) (text : Chars) : List Bit :=
  if isQuoted then if text.isEmpty then [.quote] else text.map (.char true false)
  else if m.isInside then valueBits false text
  else text.map (.char false false)

/-- The home directory that a name after a tilde means. -/
def State.home? (s : State) (name : Chars) : Option Chars :=
  if name.isEmpty then s.valueOf? "HOME".toList
  else if name = "root".toList then some "/root".toList
  else none

/-- The stretches of a text of the script: home directories, which stand for themselves, and the
text between them. -/
def homeStretches (home? : Chars → Option Chars) (inList isLast : Bool) : (mayStart : Bool) →
    Chars → List (Bool × Chars)
  | _, [] => []
  | mayStart, c :: cs =>
    let name := cs.takeWhile fun x => x != '/' && !(inList && x == ':')
    let isWhole := isLast || name.length < cs.length
    match if mayStart && c == '~' && isWhole then home? name else none with
    | some home => (true, home) :: homeStretches home? inList isLast false (cs.drop name.length)
    | none => (false, [c]) :: homeStretches home? inList isLast (inList && c == ':') cs
termination_by _ cs => cs.length
decreasing_by
  all_goals
    simp only [List.length_drop, List.length_cons]
    omega

/-- A bare text of the script with home directories in it. -/
def homeBits (s : State) (m : Manner) (isFirst isLast : Bool) (text : Chars) : List Bit :=
  match m.homes with
  | .nowhere => literalBits m false text
  | homes =>
    if !text.contains '~' then literalBits m false text
    else
      (homeStretches s.home? (homes == .inList) isLast isFirst text).flatMap fun (isHome, part) =>
        if isHome then part.map (.char true false) else literalBits m false part

/-! ## 2. Parameters -/

/-- Whether a parameter stands for all arguments. -/
def isAll (name : Chars) : Bool := name == ['@'] || name == ['*']

/-- What stands between all arguments as one text. -/
def allJoiner (s : State) (m : Manner) (isQuoted : Bool) (name : Chars) : Chars :=
  if m.isFull && (!isQuoted || name == ['@']) then
    if (s.valueOf? "IFS".toList).isNone && !isQuoted then [' '] else ['\x00']
  else s.joiner

/-- The text of a parameter, if it has one. -/
def parameterText? (s : State) (m : Manner) (isQuoted : Bool) (name : Chars) : Option Chars :=
  if isAll name then some ((allJoiner s m isQuoted name).intercalate s.arguments)
  else s.parameter? name

/-- What a parameter with a text stands for. -/
def parameterBits (s : State) (m : Manner) (isQuoted : Bool) (name text : Chars) : List Bit :=
  if name == ['@'] && isQuoted && m.isFull then
    if s.arguments.isEmpty then []
    else .quote :: ((s.arguments.map (valueBits true)).intersperse [.cut]).flatten
  else valueBits isQuoted text

/-- Whether a parameter has no value, or none that counts. -/
def isUnset (orEmpty : Bool) (value? : Option Chars) : Bool :=
  match value? with
  | none => true
  | some v => orEmpty && v.isEmpty

/-- Gives up because a parameter has no value. -/
def abandonUnset {α : Type} (name : Chars) : Eval α :=
  abandon (name ++ ": parameter not set".toList)

/-- The value of an expression. -/
def evaluated (text : Chars) : Eval Chars := do
  let s ← get
  match Arithmetic.evaluate (fun x => (s.parameter? x).getD []) text with
  | .ok (v, assigned) =>
    for (x, n) in assigned do assign x (toString n).toList
    return (toString v).toList
  | .error (.malformed what) =>
    abandon ("arithmetic expression: ".toList ++ what.toList ++ ": \"".toList ++ text ++ ['"'])
  | .error (.notNumber text) => abandonNumber text

/-! ## 3. Words -/

section

/- How the output of another script is found. -/
variable (output : Option Command → Eval Chars)

mutual

/-- What the pieces of a word stand for. -/
def bits : Nat → Manner → (isFirst : Bool) → Word → Eval (List Bit)
  | 0, _, _, _ => throw .ended
  | _, _, _, [] => return []
  | n + 1, m, _, .literal true [] :: .parameter true ['@'] .none :: .literal true [] :: ps => do
    let first ← pieceBits n m false false (.parameter true ['@'] .none)
    let others ← bits n m false ps
    return first ++ others
  | n + 1, m, isFirst, p :: ps => do
    let first ← pieceBits n m isFirst ps.isEmpty p
    let others ← bits n m false ps
    return first ++ others

/-- What a piece of a word stands for. -/
def pieceBits : Nat → Manner → (isFirst isLast : Bool) → Piece → Eval (List Bit)
  | 0, _, _, _, _ => throw .ended
  | n + 1, m, isFirst, isLast, p => do
    match p with
    | .literal true text => return literalBits m true text
    | .literal false text => return homeBits (← get) m isFirst isLast text
    | .output q body => return valueBits q (← output body)
    | .arithmetic q expression => return valueBits q (← evaluated (← plain n {} expression))
    | .parameter q name change => do
      let s ← get
      let text? := parameterText? s m q name
      let inside : Manner := { m with isInside := true, homes := .atStart }
      let needed : Eval Chars :=
        match text? with
        | some text => pure text
        | none => if s.has 'u' then abandonUnset name else pure []
      match change with
      | .none =>
        let text ← needed
        return if text?.isNone then if q then [] else [.seam] else parameterBits s m q name text
      | .length => return valueBits q (State.decimal (← needed).length)
      | .orElse orEmpty w =>
        match text? with
        | some text =>
          if isUnset orEmpty text? then bits n inside true w
          else return parameterBits s m q name text
        | none => bits n inside true w
      | .instead orEmpty w => if isUnset orEmpty text? then return [] else bits n inside true w
      | .orAssign orEmpty w =>
        if isUnset orEmpty text? then
          let text ← plain n { homes := .atStart } w
          if !isName name then abandonName name
          assign name text
          return valueBits q text
        else return parameterBits s m q name (text?.getD [])
      | .orFail orEmpty w =>
        if isUnset orEmpty text? then
          let message ← plain n { homes := .atStart } w
          if w.isEmpty then
            abandon (name ++ ": parameter not set".toList ++
              (if orEmpty then " or null".toList else []))
          else abandon (name ++ ": ".toList ++ message)
        else return parameterBits s m q name (text?.getD [])
      | .withoutStart longest w =>
        let text ← needed
        let glob := Glob.ofWord (markedText (← bits n { homes := .atStart } true w))
        return valueBits q (Glob.withoutStart longest glob text)
      | .withoutEnd longest w =>
        let text ← needed
        let glob := Glob.ofWord (markedText (← bits n { homes := .atStart } true w))
        return valueBits q (Glob.withoutEnd longest glob text)
      | .invalid => abandon "Bad substitution".toList

/-- A word as one text. -/
def plain : Nat → Manner → Word → Eval Chars
  | 0, _, _ => throw .ended
  | n + 1, m, w => do return textOfBits (← bits n m true w)

end

/-- The words that a word expands to. -/
def expandOne (n : Nat) (w : Word) : Eval (List Chars) := do
  let bs ← bits output n { isFull := true, homes := .atStart } true w
  let s ← get
  let fs := fields s.separators bs
  if s.has 'f' then return fs.map fun f => f.map (·.2)
  else
    let tree ← place
    return fs.flatMap (wordsOf tree)

/-- The words that words expand to. -/
def expandAll (n : Nat) : List Word → Eval (List Chars)
  | [] => return []
  | w :: ws => do
    let first ← expandOne output n w
    let others ← expandAll n ws
    return first ++ others

/-- The words that the arguments of a command that assigns expand to: an assignment is one
word. -/
def expandAssigning (n : Nat) : List Word → Eval (List Chars)
  | [] => return []
  | w :: ws => do
    let first ← match w.assignment? with
      | some (name, value) => do
        pure [name ++ '=' :: (← plain output n { homes := .inList } value)]
      | none => expandOne output n w
    let others ← expandAssigning n ws
    return first ++ others

/-- Expands words up to the first that stands for anything: what it stands for, and the words
after it. -/
def expandFirst (n : Nat) : List Word → Eval (List Chars × List Word)
  | [] => return ([], [])
  | w :: ws => do
    match ← expandOne output n w with
    | [] => expandFirst n ws
    | found => return (found, ws)

end

end LintRun.Shell

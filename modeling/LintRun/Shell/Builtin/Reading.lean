import LintRun.Shell.Builtin.Basic
import LintRun.Shell.Fields

/-!
# Reading lines

The command that reads a line into variables: a field for each, and the last one gets what is
left, without the separators at its end if they are no more than one field ends with.
-/

namespace LintRun.Shell

/-- What is left of a line for the last variable: a trailing run of blanks, with one separator of
another kind if only blanks stand before it, is held back and dropped at the end.  Characters
after a backslash stand for no separators, and do not end such a run. -/
def lineRest (separators : Chars) : (isBlank : Bool) → (held kept : Chars) → List Bit → Chars
  | _, _, kept, [] => kept.reverse
  | isBlank, held, kept, .char _ isLoose c :: bits =>
    if !isLoose then
      if held.isEmpty then lineRest separators false [] (c :: kept) bits
      else lineRest separators false (c :: held) kept bits
    else
      let isSeparator := separators.contains c
      if isSeparator && isBlankSeparator c then lineRest separators isBlank (c :: held) kept bits
      else if isSeparator && isBlank then lineRest separators false (c :: held) kept bits
      else lineRest separators false [] (c :: held ++ kept) bits
  | _, held, kept, _ :: bits => lineRest separators false held kept bits

/-- Cuts a line into at most so many texts. -/
def cutLine (separators : Chars) : Nat → OpenField → Gap → List Bit → List Chars
  | _, f, _, [] => if f.isStarted then [(f.characters.reverse.map (·.2))] else []
  | n, f, gap, .char q isLoose c :: bits =>
    if !isLoose || !separators.contains c then
      cutLine separators n ⟨(q, c) :: f.characters, true⟩ .none bits
    else
      match gap, isBlankSeparator c with
      | .blank, true | .sign, true => cutLine separators n f gap bits
      | .blank, false => cutLine separators n f .sign bits
      | _, isBlank =>
        if isBlank && !f.isStarted then cutLine separators n f .none bits
        else if n ≤ 1 then
          let kept := f.characters.map (·.2)
          [lineRest separators isBlank [c] kept bits]
        else
          f.characters.reverse.map (·.2) ::
            cutLine separators (n - 1) {} (if isBlank then .blank else .sign) bits
  | n, f, _, _ :: bits => cutLine separators n f .none bits

/-- The bits of the line that a text starts with, what follows it, and whether its end is there.
A backslash takes away the meaning of the character after it, unless the text is taken as it
is. -/
def lineBits (isRaw : Bool) : Chars → List Bit × Chars × Bool
  | [] => ([], [], false)
  | '\n' :: rest => ([], rest, true)
  | ['\\'] => (if isRaw then [.char false true '\\'] else [], [], false)
  | '\\' :: c :: rest =>
    if isRaw then
      let (bits, after, hasEnd) := lineBits isRaw (c :: rest)
      (.char false true '\\' :: bits, after, hasEnd)
    else
      let (bits, after, hasEnd) := lineBits isRaw rest
      (if c == '\n' then .seam :: bits else .char true false c :: bits, after, hasEnd)
  | c :: rest =>
    let (bits, after, hasEnd) := lineBits isRaw rest
    (if c == '\x00' then bits else .char false true c :: bits, after, hasEnd)

/-- Gives each name its text, an empty one if there are not enough. -/
def assignEach : List Chars → List Chars → Eval PUnit
  | [], _ => pure ()
  | name :: names, texts => do
    if !isName name then abandonName name
    assign name (texts.headD [])
    assignEach names texts.tail

/-- Reads a line of the input into variables. -/
def readInto : Builtin := fun args => do
  let (options, names) ← optionsOf "p:r" args
  if names.isEmpty then abandon "arg count".toList
  let isRaw := options.any (·.1 == 'r')
  let line ← withTask fun t =>
    match t.streams.lookup 0 with
    | none => pure (.error .badChannel)
    | some k => Act.attemptWith fun w => (w.ahead k).map fun text =>
      let (bits, after, hasEnd) := lineBits isRaw text
      ((bits, hasEnd), w.skip k (text.length - after.length))
  let (bits, hasEnd) := match line with
    | .ok x => x
    | .error _ => ([], false)
  assignEach names (cutLine (← get).separators names.length {} .none bits)
  leaving (if hasEnd then 0 else 1)

end LintRun.Shell

import LintRun.Machine.Regular.Basic
import LintRun.Shell.Glob

/-!
# How regular expressions are written

There are two ways to write them: the basic one, in which groups, repetitions and alternatives
have a backslash before them, and the extended one, in which they have none.

* `Regular.read` reads an expression.
-/

namespace LintRun.Regular

/-- Why an expression is refused. -/
inductive Fault
  | trailingBackslash
  | unmatchedBracket
  | badPattern
  | unmatchedOpen
  | unmatchedClose
  | unmatchedBrace
  | badRepetition
  | tooBig
  | badReference
  | badClass
  | badRange
  deriving DecidableEq, Inhabited

/-- The wording of a fault. -/
def Fault.message : Fault → String
  | .trailingBackslash => "Trailing backslash"
  | .unmatchedBracket => "Unmatched [, [^, [:, [., or [="
  | .badPattern => "Invalid regular expression"
  | .unmatchedOpen => "Unmatched ( or \\("
  | .unmatchedClose => "Unmatched ) or \\)"
  | .unmatchedBrace => "Unmatched \\\x7b"
  | .badRepetition => "Invalid content of \\\x7b\\\x7d"
  | .tooBig => "Regular expression too big"
  | .badReference => "Invalid back reference"
  | .badClass => "Invalid character class name"
  | .badRange => "Invalid range end"

/-- A way to write expressions. -/
structure Dialect where
  isExtended : Bool
  /-- Whether a range whose end comes before its start is refused. -/
  refusesRanges : Bool
  deriving Inhabited

/-! ## 1. Signs -/

/-- What a part of a text means. -/
inductive Sign
  | char (c : Char)
  | any
  | set (fits : Char → Bool)
  | border (b : Border)
  | again (n : Nat)
  | opening
  | closing
  | bar
  | times (least : Nat) (most? : Option Nat)
  deriving Inhabited

/-- A member of a set: a character, or a class with a name, and what follows. -/
def setMember (cs : Chars) : Except Fault ((Char ⊕ (Char → Bool)) × Chars) :=
  match cs with
  | '[' :: d :: rest =>
    if d == ':' || d == '=' || d == '.' then
      let name := nameBefore d rest
      match name, rest.drop name.length with
      | _, [] => .error .unmatchedBracket
      | name, after =>
        let after := after.drop 2
        if d == ':' then
          match Shell.characterClass? name with
          | some fits => .ok (.inr fits, after)
          | none => .error .badClass
        else
          match name with
          | [c] => .ok (.inl c, after)
          | _ => .error .badClass
    else .ok (.inl '[', d :: rest)
  | c :: rest => .ok (.inl c, rest)
  | [] => .error .unmatchedBracket
where
  nameBefore (d : Char) : Chars → Chars
    | a :: b :: rest => if a == d && b == ']' then [] else a :: nameBefore d (b :: rest)
    | cs => cs

/-- The members of a set after its opening bracket, and what follows. -/
def setMembers (refusesRanges : Bool) :
    Nat → (isFirst : Bool) → Chars → Except Fault ((Char → Bool) × Chars)
  | 0, _, _ => .error .unmatchedBracket
  | _, _, [] => .error .unmatchedBracket
  | n + 1, isFirst, cs => do
    if cs.head? = some ']' && !isFirst then return (fun _ => false, cs.drop 1)
    let (m, rest) ← setMember cs
    match m, rest with
    | .inl a, '-' :: d :: more =>
      if d == ']' then
        let (others, rest) ← setMembers refusesRanges n false rest
        return (fun c => c == a || others c, rest)
      else
        let (last, rest) ← setMember (d :: more)
        match last with
        | .inl b =>
          if b < a && refusesRanges then throw .badRange
          let (others, rest) ← setMembers refusesRanges n false rest
          return (fun c => (a ≤ c && c ≤ b) || others c, rest)
        | .inr _ => throw .badRange
    | .inl a, rest =>
      let (others, rest) ← setMembers refusesRanges n false rest
      return (fun c => c == a || others c, rest)
    | .inr fits, rest =>
      let (others, rest) ← setMembers refusesRanges n false rest
      return (fun c => fits c || others c, rest)

/-- The set after an opening bracket, and what follows. -/
def bracketSet (refusesRanges : Bool) (cs : Chars) : Except Fault ((Char → Bool) × Chars) :=
  let negates := cs.head? = some '^'
  let inside := if negates then cs.drop 1 else cs
  if inside.isEmpty then .error .badPattern
  else do
    let (fits, rest) ← setMembers refusesRanges (inside.length + 1) true inside
    return (if negates then fun c => !fits c else fits, rest)

/-- The largest count of a repetition. -/
def repetitionLimit : Nat := 32767

/-- The bounds in braces, and what follows their end; `none` if there are no bounds. -/
def bounds? (isExtended : Bool) (cs : Chars) :
    Except Fault (Option (Nat × Option Nat × Chars)) :=
  let low := cs.takeWhile isDecimal
  let rest := cs.drop low.length
  let (hasComma, high, rest) := match rest with
    | ',' :: more =>
      let high := more.takeWhile isDecimal
      (true, high, more.drop high.length)
    | rest => (false, low, rest)
  let after? : Option Chars := match isExtended, rest with
    | true, '}' :: more => some more
    | false, '\\' :: '}' :: more => some more
    | _, _ => none
  match after? with
  | none =>
    if isExtended then .ok none
    else if rest.isEmpty then .error .unmatchedBrace
    else .error .badRepetition
  | some after =>
    if low.isEmpty && !hasComma then if isExtended then .ok none else .error .badRepetition
    else
      let least := numberOf 10 low
      let most? := if hasComma && high.isEmpty then none else some (numberOf 10 high)
      if most?.any (· < least) then .error .badRepetition
      else if least > repetitionLimit || most?.any (· > repetitionLimit) then .error .tooBig
      else .ok (some (least, most?, after))

/-- What a letter after a backslash means in both ways to write. -/
def escapedSign (c : Char) : Sign :=
  let isBlankSign (c : Char) : Bool := c == ' ' || ('\t' ≤ c && c ≤ '\r')
  match c with
  | 'w' => .set isWordChar
  | 'W' => .set fun c => !isWordChar c
  | 's' => .set isBlankSign
  | 'S' => .set fun c => !isBlankSign c
  | 'b' => .border .word
  | 'B' => .border .noWord
  | '<' => .border .wordStart
  | '>' => .border .wordEnd
  | '`' => .border .textStart
  | '\'' => .border .textEnd
  | c => if '1' ≤ c && c ≤ '9' then .again (numberOf 10 [c]) else .char c

/-- Reads the signs of an expression.  `isStart` tells whether an alternative starts here, `depth`
how many groups are open. -/
def signs (d : Dialect) : Nat → (isStart : Bool) → (depth : Nat) → Chars →
    Except Fault (List Sign)
  | 0, _, _, _ => .ok []
  | _, _, _, [] => .ok []
  | n + 1, isStart, depth, c :: cs => do
    let one (s : Sign) (rest : Chars) : Except Fault (List Sign) := do
      return s :: (← signs d n false depth rest)
    let start (s : Sign) (depth : Nat) (rest : Chars) : Except Fault (List Sign) := do
      return s :: (← signs d n true depth rest)
    let braces (rest : Chars) : Except Fault (List Sign) := do
      match ← bounds? d.isExtended rest with
      | some (least, most?, after) => one (.times least most?) after
      | none => one (.char '{') rest
    match c with
    | '\\' =>
      match cs with
      | [] => throw .trailingBackslash
      | e :: rest =>
        if d.isExtended then one (escapedSign e) rest
        else
          match e with
          | '(' => start .opening (depth + 1) rest
          | ')' => return .closing :: (← signs d n false (depth - 1) rest)
          | '|' => start .bar depth rest
          | '{' => if isStart then one (.char '{') rest else braces rest
          | '+' => one (if isStart then .char '+' else .times 1 none) rest
          | '?' => one (if isStart then .char '?' else .times 0 (some 1)) rest
          | e => one (escapedSign e) rest
    | '.' => one .any cs
    | '[' =>
      let (fits, rest) ← bracketSet d.refusesRanges cs
      one (.set fits) rest
    | '*' =>
      if isStart then if d.isExtended then signs d n true depth cs else one (.char '*') cs
      else one (.times 0 none) cs
    | '^' =>
      if d.isExtended || isStart then
        return .border .lineStart :: (← signs d n true depth cs)
      else one (.char '^') cs
    | '$' =>
      let isEnd := cs.isEmpty || "\\)".toList.isPrefixOf cs || "\\|".toList.isPrefixOf cs
      one (if d.isExtended || isEnd then .border .lineEnd else .char '$') cs
    | c =>
      if !d.isExtended then one (.char c) cs
      else
        match c with
        | '(' => start .opening (depth + 1) cs
        | ')' =>
          if depth = 0 then one (.char ')') cs
          else return .closing :: (← signs d n false (depth - 1) cs)
        | '|' => start .bar depth cs
        | '+' => if isStart then signs d n true depth cs else one (.times 1 none) cs
        | '?' => if isStart then signs d n true depth cs else one (.times 0 (some 1)) cs
        | '{' =>
          if isStart then
            match ← bounds? true cs with
            | some (_, _, after) => signs d n true depth after
            | none => one (.char '{') cs
          else braces cs
        | c => one (.char c) cs

/-! ## 2. Expressions -/

/-- What was read of an alternative: what is complete, and the last part, which may be repeated. -/
structure Progress where
  before : Regular := .empty
  last : Regular := .empty

/-- All that was read. -/
def Progress.whole (p : Progress) : Regular :=
  match p.before, p.last with
  | .empty, r => r
  | r, .empty => r
  | a, b => .both a b

/-- One part more. -/
def Progress.then (p : Progress) (r : Regular) : Progress := ⟨p.whole, r⟩

mutual

/-- Reads alternatives up to the end of a group; `count` is how many groups were opened. -/
def alternatives : Nat → (count : Nat) → List Sign →
    Except Fault (Regular × Nat × List Sign)
  | 0, count, ss => .ok (.empty, count, ss)
  | n + 1, count, ss => do
    let (first, count, ss) ← sequence n count {} ss
    match ss with
    | .bar :: more =>
      let (rest, count, ss) ← alternatives n count more
      return (.either first rest, count, ss)
    | ss => return (first, count, ss)

/-- Reads one alternative. -/
def sequence : Nat → (count : Nat) → Progress → List Sign →
    Except Fault (Regular × Nat × List Sign)
  | 0, count, p, ss => .ok (p.whole, count, ss)
  | n + 1, count, p, ss => do
    match ss with
    | [] => return (p.whole, count, [])
    | .bar :: more => return (p.whole, count, .bar :: more)
    | .closing :: more => return (p.whole, count, .closing :: more)
    | .opening :: more =>
      let number := count + 1
      let (inner, count, rest) ← alternatives n number more
      match rest with
      | .closing :: rest => sequence n count (p.then (.group number inner)) rest
      | _ => throw .unmatchedOpen
    | .times least most? :: more =>
      sequence n count ⟨p.before, .times least most? p.last⟩ more
    | .char c :: more => sequence n count (p.then (.one (· == c))) more
    | .any :: more => sequence n count (p.then (.one fun _ => true)) more
    | .set fits :: more => sequence n count (p.then (.one fits)) more
    | .border b :: more => sequence n count (p.then (.border b)) more
    | .again k :: more =>
      if k > count then throw .badReference
      sequence n count (p.then (.again k)) more

end

/-- Reads an expression; tells how many groups it has. -/
def read (d : Dialect) (text : Chars) : Except Fault (Regular × Nat) := do
  let ss ← signs d (text.length + 1) true 0 text
  let (r, count, rest) ← alternatives (2 * ss.length + 2) 0 ss
  match rest with
  | [] => return (r, count)
  | _ => throw .unmatchedClose

end LintRun.Regular

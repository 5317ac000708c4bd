import LintRun.Machine.Regular.Syntax
import LintRun.Machine.Utility.Basic
import LintRun.Shell.Condition

/-!
# Utilities that decide

`test` decides whether something holds, `expr` evaluates an expression, and `true` and `false`
have decided.

* `Question.answer` reads a question by the number of its words;
* `Formula.value` evaluates an expression.
-/

namespace LintRun.Utility

/-! ## 1. Questions -/

namespace Question

/-- The answer to a question, or why it is none. -/
abbrev Answer := Except Chars

/-- An answer, and the words after those that were used. -/
abbrev Partly := Answer (Bool × List Chars)

/-- The operators with two operands. -/
def binaryOperators : List String :=
  ["=", "==", "!=", "-nt", "-ot", "-ef", "-eq", "-ne", "-lt", "-le", "-gt", "-ge"]

/-- Whether a word is an operator with two operands. -/
def isBinary (w : Chars) : Bool := binaryOperators.contains (String.ofList w)

/-- The letters of the operators with one operand. -/
def unaryLetters : Chars := "bcdefghkLnNOGprsStuwxz".toList

/-- A whole number with blanks around it. -/
def number (w : Chars) : Answer Int :=
  let isGap (c : Char) : Bool := c == ' ' || c == '\t'
  let body := w.dropWhile isBlankChar
  let (negative, body) := match body with
    | '-' :: rest => (true, rest)
    | '+' :: rest => (false, rest)
    | rest => (false, rest)
  let ds := body.takeWhile isDecimal
  if ds.isEmpty || !(body.drop ds.length).all isGap then
    .error ("invalid integer ".toList ++ Quoting.plainly w)
  else
    let n : Int := numberOf 10 ds
    .ok (if negative then -n else n)

section

/- The files, and the last word of the whole question. -/
variable (tree : Tree) (last : Chars)

/-- Complains that words are missing. -/
def beyond {α : Type} : Answer α :=
  .error ("missing argument after ".toList ++ Quoting.plainly last)

/-- An operator with two operands. -/
def binary (a op b : Chars) : Answer Bool := do
  let numbers (r : Int → Int → Bool) : Answer Bool := do
    let x ← number a
    let y ← number b
    return r x y
  match String.ofList op with
  | "==" => return a == b
  | "-eq" => numbers (· == ·)
  | "-ne" => numbers (· != ·)
  | "-lt" => numbers fun x y => x < y
  | "-le" => numbers fun x y => x ≤ y
  | "-gt" => numbers fun x y => y < x
  | "-ge" => numbers fun x y => y ≤ x
  | _ => Shell.Condition.binaryHolds tree a op b

/-- An operator with one operand. -/
def unary : List Chars → Partly
  | op :: rest =>
    match op, rest with
    | ['-', c], rest =>
      if !unaryLetters.contains c then
        .error (Quoting.plainly op ++ ": unary operator expected".toList)
      else
        match rest with
        | [] => beyond last
        | w :: rest =>
          if c == 't' then do
            let _ ← number w
            return (false, rest)
          else do return (← Shell.Condition.unaryHolds tree op w, rest)
    | op, _ => .error (Quoting.plainly op ++ ": unary operator expected".toList)
  | [] => beyond last

/-- One word. -/
def single : List Chars → Partly
  | w :: rest => .ok (!w.isEmpty, rest)
  | [] => beyond last

/-- Whether a word is a dash and a letter. -/
def isSwitch (w : Chars) : Bool :=
  match w with
  | ['-', _] => true
  | _ => false

/-- Two words. -/
def double : List Chars → Partly
  | ['!'] :: rest => do
    let (a, rest) ← single last rest
    return (!a, rest)
  | w :: rest => if isSwitch w then unary tree last (w :: rest) else beyond last
  | [] => beyond last

mutual

/-- Three words. -/
def triple : Nat → List Chars → Partly
  | 0, _ => beyond last
  | n + 1, ws =>
    match ws with
    | a :: op :: b :: rest =>
      if isBinary op then do return (← binary tree a op b, rest)
      else if a = ['!'] then do
        let (x, rest) ← double tree last (op :: b :: rest)
        return (!x, rest)
      else if a = ['('] && b = [')'] then .ok (!op.isEmpty, rest)
      else if ["-a", "-o"].contains (String.ofList op) then disjunction n ws
      else .error (Quoting.plainly op ++ ": binary operator expected".toList)
    | _ => beyond last

/-- Conditions joined by `-o`. -/
def disjunction : Nat → List Chars → Partly
  | 0, _ => beyond last
  | n + 1, ws => do
    let (a, rest) ← conjunction n ws
    match rest with
    | ['-', 'o'] :: more =>
      let (b, rest) ← disjunction n more
      return (a || b, rest)
    | rest => return (a, rest)

/-- Conditions joined by `-a`. -/
def conjunction : Nat → List Chars → Partly
  | 0, _ => beyond last
  | n + 1, ws => do
    let (a, rest) ← term n ws
    match rest with
    | ['-', 'a'] :: more =>
      let (b, rest) ← conjunction n more
      return (a && b, rest)
    | rest => return (a, rest)

/-- One condition, negated or in brackets. -/
def term : Nat → List Chars → Partly
  | 0, _ => beyond last
  | n + 1, ws =>
    match ws with
    | [] => beyond last
    | ['!'] :: rest => do
      if rest.isEmpty then beyond last
      let (a, rest) ← term n rest
      return (!a, rest)
    | ['('] :: rest => do
      if rest.isEmpty then beyond last
      let inside := (rest.drop 1).takeWhile (· != [')'])
      let count := if inside.length ≥ 3 then
          if inside.length = 3 && rest.length > 4 then 4 else rest.length
        else min (inside.length + 1) rest.length
      let (a, rest) ← counted n count rest
      match rest with
      | [] => .error "')' expected".toList
      | [')'] :: rest => return (a, rest)
      | w :: _ => .error ("')' expected, found ".toList ++ Quoting.plainly w)
    | a :: rest =>
      match a, rest with
      | ['-', 'l'], w :: op :: b :: rest =>
        if isBinary op then do
          return (← binary tree (digits w.length) op b, rest)
        else unary tree last (a :: w :: op :: b :: rest)
      | a, op :: b :: more =>
        if isBinary op then do return (← binary tree a op b, more)
        else if isSwitch a then unary tree last (a :: rest)
        else .ok (!a.isEmpty, rest)
      | a, rest =>
        if isSwitch a then unary tree last (a :: rest) else .ok (!a.isEmpty, rest)

/-- A question of so many words. -/
def counted : Nat → Nat → List Chars → Partly
  | 0, _, _ => beyond last
  | n + 1, count, ws =>
    match count with
    | 1 => single last ws
    | 2 => double tree last ws
    | 3 => triple n ws
    | _ =>
      if count = 4 && ws.head? = some ['!'] then do
        let (a, rest) ← triple n (ws.drop 1)
        return (!a, rest)
      else if count = 4 && ws.head? = some ['('] && ws[3]? = some [')'] then do
        let (a, rest) ← double tree last (ws.drop 1)
        return (a, rest.drop 1)
      else disjunction n ws

end

/-- The answer to a question. -/
def answer (ws : List Chars) : Answer Bool := do
  if ws.isEmpty then return false
  let (a, rest) ← counted tree last (4 * ws.length + 8) ws.length ws
  match rest with
  | [] => return a
  | w :: _ => .error ("extra argument ".toList ++ Quoting.plainly w)

end

end Question

/-- Decides whether what its arguments say holds. -/
def decide (t : Task) (words : List Chars) : Step Nat := do
  let tree ← Step.act t.tree
  match Question.answer tree (words.getLastD []) words with
  | .ok true => return 0
  | .ok false => return 1
  | .error message =>
    complain t message
    return 2

/-- Decides whether something holds. -/
def test : Utility := fun t => decide t t.arguments

/-- Decides whether something in brackets holds. -/
def bracket : Utility := fun t => do
  if t.arguments.getLast? = some [']'] then decide t t.arguments.dropLast
  else
    complain t "missing ']'".toList
    return 2

/-- Ends well. -/
def yesAlways : Utility := fun _ => return 0

/-- Ends badly. -/
def noAlways : Utility := fun _ => return 1

/-! ## 2. Expressions -/

namespace Formula

/-- What is left of an expression, or what is wrong with it. -/
abbrev Rest := List Chars

/-- The value of a part of an expression, with what is left. -/
abbrev Value := Except Chars (Chars × Rest)

/-- The whole number that a text writes. -/
def integer? (cs : Chars) : Option Int :=
  match cs with
  | '-' :: ds => if ds.isEmpty || !ds.all isDecimal then none else some (-(numberOf 10 ds : Int))
  | ds => if ds.isEmpty || !ds.all isDecimal then none else some (numberOf 10 ds)

/-- Whether a value counts as nothing: no text, or zero. -/
def isNull (cs : Chars) : Bool :=
  let ds := if cs.head? = some '-' then cs.drop 1 else cs
  cs.isEmpty || (!ds.isEmpty && ds.all (· == '0'))

/-- A number as text. -/
def shownInt (n : Int) : Chars := (toString n).toList

/-- A truth value as text. -/
def shownBool (b : Bool) : Chars := if b then ['1'] else ['0']

/-- What is wrong with the form of an expression. -/
def malformed {α : Type} (message : Chars) : Except Chars α :=
  .error ("syntax error: ".toList ++ message)

/-- A number from a text that has to be one. -/
def operand (cs : Chars) : Except Chars Int :=
  match integer? cs with
  | some n => .ok n
  | none => .error "non-integer argument".toList

/-- How far the start of a text matches an expression, or the group in it. -/
def matched (text pattern : Chars) : Except Chars Chars :=
  match Regular.read ⟨false, false⟩ pattern with
  | .error e => .error e.message.toList
  | .ok (r, groups) =>
    let found := r.matchAt? { text := text.toArray } 0
    if groups = 0 then .ok (digits ((found.map (·.1)).getD 0))
    else
      match found.bind (·.2.lookup 1) with
      | some (start, stop) => .ok ((text.take stop).drop start)
      | none => .ok []

/-- The value of two operands joined by an operator for numbers. -/
def arithmetic (op : Chars) (a b : Chars) : Except Chars Chars := do
  let x ← operand a
  let y ← operand b
  match op with
  | ['+'] => return shownInt (x + y)
  | ['-'] => return shownInt (x - y)
  | ['*'] => return shownInt (x * y)
  | _ =>
    if y = 0 then .error "division by zero".toList
    else return shownInt (if op = ['/'] then x.tdiv y else x.tmod y)

/-- The value of a comparison: of numbers if both are, else of texts. -/
def comparison (op a b : Chars) : Chars :=
  let order : Ordering := match integer? a, integer? b with
    | some x, some y => if x < y then .lt else if y < x then .gt else .eq
    | _, _ => if a < b then .lt else if b < a then .gt else .eq
  shownBool (match String.ofList op with
    | "<" => order = .lt
    | "<=" => order != .gt
    | "=" | "==" => order = .eq
    | "!=" => order != .eq
    | ">=" => order != .lt
    | _ => order = .gt)

/-- The operators of a level, which bind the tighter the higher the level is. -/
def operators : Nat → List String
  | 0 => ["|"]
  | 1 => ["&"]
  | 2 => ["<", "<=", "=", "==", "!=", ">=", ">"]
  | 3 => ["+", "-"]
  | 4 => ["*", "/", "%"]
  | _ => [":"]

/-- The value of an operator; an operand that does not count is not looked at. -/
def joined (evaluates : Bool) (level : Nat) (op a b : Chars) : Except Chars Chars :=
  match level with
  | 0 => .ok (if !isNull a then a else if isNull b then ['0'] else b)
  | 1 => .ok (if isNull a || isNull b then ['0'] else a)
  | 2 => .ok (if evaluates then comparison op a b else a)
  | 5 => if evaluates then matched a b else .ok a
  | _ => if evaluates then arithmetic op a b else .ok a

/-- Characters of a text from a position on. -/
def substring (text start count : Chars) : Chars :=
  match integer? start, integer? count with
  | some s, some n =>
    if s ≤ 0 || n ≤ 0 then [] else (text.drop (s.toNat - 1)).take n.toNat
  | _, _ => []

/-- The first position in a text of one of some characters. -/
def position (text set : Chars) : Chars :=
  match text.findIdx? set.contains with
  | some k => digits (k + 1)
  | none => ['0']

mutual

/-- The value of operands joined by the operators of a level. -/
def value : Nat → (evaluates : Bool) → (level : Nat) → (before : Chars) → Rest → Value
  | 0, _, _, _, _ => malformed []
  | n + 1, evaluates, level, before, ws => do
    if level > 5 then function n evaluates before ws
    else
      let (a, rest) ← value n evaluates (level + 1) before ws
      continued n evaluates level a rest

/-- The value of what was read and of the operators that follow it. -/
def continued : Nat → (evaluates : Bool) → (level : Nat) → (soFar : Chars) → Rest → Value
  | 0, _, _, _, _ => malformed []
  | n + 1, evaluates, level, a, ws => do
    match ws with
    | op :: rest =>
      if (operators level).contains (String.ofList op) then
        let evaluatesNext := evaluates && (match level with
          | 0 => isNull a
          | 1 => !isNull a
          | _ => true)
        let (b, rest) ← value n evaluatesNext (level + 1) op rest
        continued n evaluates level (← joined evaluates level op a b) rest
      else return (a, op :: rest)
    | [] => return (a, [])

/-- The value of a function of texts, or of one operand. -/
def function : Nat → (evaluates : Bool) → (before : Chars) → Rest → Value
  | 0, _, _, _ => malformed []
  | n + 1, evaluates, before, ws => do
    match ws with
    | [] => malformed ("missing argument after ".toList ++ Quoting.plainly before)
    | w :: rest =>
      match String.ofList w with
      | "+" =>
        match rest with
        | a :: rest => return (a, rest)
        | [] => malformed ("missing argument after ".toList ++ Quoting.plainly w)
      | "length" =>
        let (a, rest) ← function n evaluates w rest
        return (digits a.length, rest)
      | "match" =>
        let (a, rest') ← function n evaluates w rest
        let (b, rest) ← function n evaluates a rest'
        return (← joined evaluates 5 [':'] a b, rest)
      | "index" =>
        let (a, rest') ← function n evaluates w rest
        let (b, rest) ← function n evaluates a rest'
        return (position a b, rest)
      | "substr" =>
        let (a, rest') ← function n evaluates w rest
        let (b, rest') ← function n evaluates a rest'
        let (c, rest) ← function n evaluates b rest'
        return (substring a b c, rest)
      | "(" =>
        let (a, rest) ← value n evaluates 0 w rest
        match rest with
        | [')'] :: rest => return (a, rest)
        | [] =>
          malformed ("expecting ')' after ".toList ++ Quoting.plainly (ws.getLastD []))
        | w :: _ => malformed ("expecting ')' instead of ".toList ++ Quoting.plainly w)
      | ")" => malformed "unexpected ')'".toList
      | _ => return (w, rest)

end

end Formula

/-- Evaluates an expression. -/
def expr : Utility := fun t => do
  let ws := if t.arguments.head? = some ['-', '-'] then t.arguments.drop 1 else t.arguments
  if ws.isEmpty then missingOperand t 2
  match Formula.value (16 * ws.length + 16) true 0 [] ws with
  | .error message =>
    complain t message
    return 2
  | .ok (_, w :: _) =>
    complain t ("syntax error: unexpected argument ".toList ++ Quoting.plainly w)
    return 2
  | .ok (a, []) =>
    printLine t a
    return if Formula.isNull a then 1 else 0

end LintRun.Utility

import LintRun.Shell.Cursor

/-!
# Arithmetic of scripts

Whole numbers of 64 bits with the usual operators, those that assign included; comparisons give
one or zero.  A name stands for the number that its variable holds.  What an operator does not
need is read and not evaluated.
-/

namespace LintRun.Shell.Arithmetic

/-! ## 1. Numbers -/

/-- How many numbers of 64 bits there are. -/
def wordCount : Nat := 18446744073709551616

/-- The greatest number. -/
def greatest : Nat := 9223372036854775807

/-- A number in 64 bits. -/
def wrap (n : Int) : Int := n.bmod wordCount

/-- One for true, zero for false. -/
def ofBool (b : Bool) : Int := if b then 1 else 0

/-- A number that a text starts with, its base shown by its first characters, and what follows
it; without digits nothing. -/
def numeral? (cs : Chars) : Option (Nat × Chars) :=
  let digits (base : Nat) (cs : Chars) : Option (Nat × Chars) :=
    match cs.takeWhile (isDigitOf base) with
    | [] => none
    | ds => some (numberOf base ds, cs.dropWhile (isDigitOf base))
  match cs with
  | '0' :: x :: ds =>
    if x == 'x' || x == 'X' then (digits 16 ds).or (some (0, x :: ds)) else digits 8 cs
  | cs => if cs.head? = some '0' then digits 8 cs else digits 10 cs

/-- Whether a character is a blank around numbers. -/
def isSpace (c : Char) : Bool := c == ' ' || ('\t' ≤ c && c ≤ '\r')

/-- The number that a text spells, sign and blanks included, and what follows it; its base is
ten or shown by its first characters.  `none` if there is no number. -/
def signed? (anyBase : Bool) (cs : Chars) : Option (Int × Chars) :=
  let cs := cs.dropWhile isSpace
  let (negative, ds) := match cs with
    | '-' :: ds => (true, ds)
    | '+' :: ds => (false, ds)
    | ds => (false, ds)
  let number := if anyBase then numeral? ds
    else
      match ds.takeWhile isDecimal with
      | [] => none
      | digits => some (numberOf 10 digits, ds.dropWhile isDecimal)
  number.map fun (n, rest) => (if negative then -(n : Int) else n, rest)

/-- Whether a number fits in 64 bits. -/
def fits (n : Int) : Bool := -(greatest : Int) - 1 ≤ n && n ≤ greatest

/-- The number of 64 bits that a text holds and nothing else; no text is zero. -/
def value? (text : Chars) : Option Int :=
  match signed? true text with
  | none => if text.all isSpace then some 0 else none
  | some (n, rest) => if fits n && rest.all isSpace then some n else none

/-- The decimal number of 64 bits that a text holds and nothing else. -/
def decimal? (text : Chars) : Option Int :=
  match signed? false text with
  | none => none
  | some (n, rest) => if fits n && rest.all isSpace then some n else none

/-! ## 2. Symbols -/

/-- A symbol of an expression. -/
inductive Symbol
  | number (n : Int)
  | name (x : Chars)
  | sign (s : String)
  /-- A character that no expression has. -/
  | stray
  deriving DecidableEq, Inhabited

/-- The signs, longer ones before those they start with. -/
def signs : List String := [
  "<<=", ">>=", "<<", ">>", "<=", ">=", "<", ">", "||", "|=", "|", "&&", "&=", "&", "!=", "!",
  "==", "=", "*=", "*", "/=", "/", "%=", "%", "+=", "+", "-=", "-", "^=", "^", "~", "?", ":",
  "(", ")"]

/-- The symbols of an expression up to a stray character. -/
def symbols : Nat → Chars → List Symbol
  | 0, _ => []
  | _, [] => []
  | n + 1, c :: cs =>
    if c == ' ' || c == '\t' || c == '\n' then symbols n cs
    else if isDecimal c then
      match numeral? (c :: cs) with
      | some (v, rest) => .number (min v greatest) :: symbols n rest
      | none => [.stray]
    else if isNameStart c then
      .name (c :: cs.takeWhile isNameChar) :: symbols n (cs.dropWhile isNameChar)
    else
      match signs.find? fun s => s.toList.isPrefixOf (c :: cs) with
      | some s => .sign s :: symbols n ((c :: cs).drop s.length)
      | none => [.stray]

/-! ## 3. Operators -/

/-- What is wrong with an expression. -/
inductive Problem
  | malformed (what : String)
  /-- A variable that holds no number. -/
  | notNumber (text : Chars)
  deriving Inhabited

/-- An operation on bits. -/
def onBits (f : Nat → Nat → Nat) (a b : Int) : Int :=
  wrap (f (a % wordCount).toNat (b % wordCount).toNat)

/-- By how many places a number shifts; six bits of it count. -/
def places (b : Int) : Nat := (b % 64).toNat

/-- What an operator with two sides does. -/
def apply (sign : String) (a b : Int) : Except Problem Int :=
  match sign with
  | "*" => .ok (wrap (a * b))
  | "/" => if b = 0 then .error (.malformed "division by zero") else .ok (wrap (a.tdiv b))
  | "%" => if b = 0 then .error (.malformed "division by zero") else .ok (a.tmod b)
  | "+" => .ok (wrap (a + b))
  | "-" => .ok (wrap (a - b))
  | "<<" => .ok (wrap (a * (1 <<< places b : Nat)))
  | ">>" => .ok (a >>> places b)
  | "<" => .ok (ofBool (a < b))
  | "<=" => .ok (ofBool (a ≤ b))
  | ">" => .ok (ofBool (b < a))
  | ">=" => .ok (ofBool (b ≤ a))
  | "==" => .ok (ofBool (a == b))
  | "!=" => .ok (ofBool (a != b))
  | "&" => .ok (onBits Nat.land a b)
  | "^" => .ok (onBits Nat.xor a b)
  | _ => .ok (onBits Nat.lor a b)

/-- The operators that take their left side first, those that bind least first. -/
def levels : List (List String) := [
  ["|"], ["^"], ["&"], ["==", "!="], ["<=", ">=", "<", ">"], ["<<", ">>"], ["+", "-"],
  ["*", "/", "%"]]

/-- The operators that assign what another one gives. -/
def assigning : List (String × String) := [
  ("+=", "+"), ("-=", "-"), ("*=", "*"), ("/=", "/"), ("%=", "%"), ("<<=", "<<"), (">>=", ">>"),
  ("&=", "&"), ("^=", "^"), ("|=", "|")]

/-! ## 4. Values -/

/-- What is left of an expression and what it has assigned, latest first. -/
structure Progress where
  rest : List Symbol
  assigned : List (Chars × Int) := []

/-- A step of an evaluation. -/
abbrev Step := StateT Progress (Except Problem)

/-- Gives up. -/
def malformed {α : Type} (what : String) : Step α := fun _ => .error (.malformed what)

/-- Takes the next symbol if it is one of some signs. -/
def accepts (ss : List String) : Step (Option String) := modifyGet fun p =>
  match p.rest with
  | .sign s :: rest => if ss.contains s then (some s, { p with rest }) else (none, p)
  | _ => (none, p)

section

/- The values of the variables from outside. -/
variable (lookup : Chars → Chars)

/-- The number that a variable holds. -/
def valueOf (x : Chars) : Step Int := do
  match (← get).assigned.lookup x with
  | some n => return n
  | none =>
    match value? (lookup x) with
    | some n => return n
    | none => fun _ => .error (.notNumber (lookup x))

mutual

/-- A number, a name, a sign before one, or brackets. -/
def primary : Nat → (counts : Bool) → Step Int
  | 0, _ => malformed "expecting primary"
  | n + 1, counts => do
    let p ← get
    match p.rest with
    | .number v :: rest =>
      set { p with rest }
      return v
    | .name x :: rest =>
      set { p with rest }
      if counts then valueOf lookup x else return 0
    | .sign s :: rest =>
      set { p with rest }
      match s with
      | "(" =>
        let v ← assignment n counts
        match ← accepts [")"] with
        | some _ => return v
        | none => malformed "expecting ')'"
      | "+" => primary n counts
      | "-" => return wrap (-(← primary n counts))
      | "!" => return ofBool ((← primary n counts) == 0)
      | "~" => return -(← primary n counts) - 1
      | _ => malformed "expecting primary"
    | _ => malformed "expecting primary"

/-- Operators of some levels between primaries. -/
def binary : Nat → (counts : Bool) → List (List String) → Step Int
  | 0, _, _ => malformed "expecting primary"
  | n + 1, counts, [] => primary n counts
  | n + 1, counts, ops :: deeper => do
    let first ← binary n counts deeper
    binaryRest n counts ops deeper first

/-- The rest of the operators of one level. -/
def binaryRest : Nat → (counts : Bool) → List String → List (List String) → Int → Step Int
  | 0, _, _, _, _ => malformed "expecting primary"
  | n + 1, counts, ops, deeper, first => do
    match ← accepts ops with
    | none => return first
    | some op =>
      let second ← binary n counts deeper
      let v ← if counts then (fun p => (apply op first second).map (·, p)) else pure second
      binaryRest n counts ops deeper v

/-- Values joined by `&&`. -/
def conjunction : Nat → (counts : Bool) → Step Int
  | 0, _ => malformed "expecting primary"
  | n + 1, counts => do
    let a ← binary n counts levels
    match ← accepts ["&&"] with
    | none => return a
    | some _ =>
      let b ← conjunction n (counts && a != 0)
      return ofBool (a != 0 && b != 0)

/-- Values joined by `||`. -/
def disjunction : Nat → (counts : Bool) → Step Int
  | 0, _ => malformed "expecting primary"
  | n + 1, counts => do
    let a ← conjunction n counts
    match ← accepts ["||"] with
    | none => return a
    | some _ =>
      let b ← disjunction n (counts && a == 0)
      return ofBool (a != 0 || b != 0)

/-- A value, or one of two. -/
def choice : Nat → (counts : Bool) → Step Int
  | 0, _ => malformed "expecting primary"
  | n + 1, counts => do
    let a ← disjunction n counts
    match ← accepts ["?"] with
    | none => return a
    | some _ =>
      let b ← assignment n (counts && a != 0)
      match ← accepts [":"] with
      | none => malformed "expecting ':'"
      | some _ =>
        let c ← choice n (counts && a == 0)
        return if a != 0 then b else c

/-- A value, or an assignment. -/
def assignment : Nat → (counts : Bool) → Step Int
  | 0, _ => malformed "expecting primary"
  | n + 1, counts => do
    let p ← get
    match p.rest with
    | .name x :: .sign s :: rest =>
      let op? := assigning.lookup s
      if s = "=" || op?.isSome then
        set { p with rest }
        let v ← assignment n counts
        if !counts then return v
        let v ← match op? with
          | some op => do
            let before ← valueOf lookup x
            fun p => (apply op before v).map (·, p)
          | none => pure v
        modify fun p => { p with assigned := (x, v) :: p.assigned }
        return v
      else choice n counts
    | _ => choice n counts

end

/-- The value of an expression, and what it assigns in order. -/
def evaluate (text : Chars) : Except Problem (Int × List (Chars × Int)) := do
  let rest := symbols (text.length + 1) text
  let (v, p) ← assignment lookup (24 * text.length + 40) true { rest }
  if p.rest.isEmpty then return (v, p.assigned.reverse)
  else throw (.malformed "expecting EOF")

end

end LintRun.Shell.Arithmetic

import LintRun.Text.Digits
import LintRun.Text.Octets

/-!
# Globs

Simple patterns for texts: `*` for any text, `?` for any character, brackets for one of a set.
Characters that come from quotes stand for themselves, and so does one after a backslash.
-/

namespace LintRun.Shell

/-- A character of a word and whether it comes from quotes. -/
abbrev Marked := Bool × Char

/-- A class of characters that has a name. -/
def characterClass? (name : Chars) : Option (Char → Bool) :=
  let isLower (c : Char) : Bool := 'a' ≤ c && c ≤ 'z'
  let isUpper (c : Char) : Bool := 'A' ≤ c && c ≤ 'Z'
  let isGraphic (c : Char) : Bool := '!' ≤ c && c ≤ '~'
  match String.ofList name with
  | "alnum" => some isAsciiAlphanumeric
  | "alpha" => some isAsciiLetter
  | "blank" => some fun c => c == ' ' || c == '\t'
  | "cntrl" => some fun c => c < ' ' || c == '\x7F'
  | "digit" => some isDecimal
  | "graph" => some isGraphic
  | "lower" => some isLower
  | "print" => some fun c => c == ' ' || isGraphic c
  | "punct" => some fun c => isGraphic c && !isAsciiAlphanumeric c
  | "space" => some fun c => c == ' ' || ('\t' ≤ c && c ≤ '\r')
  | "upper" => some isUpper
  | "xdigit" => some (isDigitOf 16)
  | _ => none

/-- A member of a set between brackets. -/
inductive SetItem
  | range (first last : Char)
  | named (name : Chars)
  deriving DecidableEq, Inhabited

/-- Whether a member stands for a character. -/
def SetItem.fits (i : SetItem) (c : Char) : Bool :=
  match i with
  | .range first last => first ≤ c && c ≤ last
  | .named name => ((characterClass? name).map (· c)).getD false

/-- One element of a glob. -/
inductive Glob
  | char (c : Char)
  | any
  | many
  | oneOf (negated : Bool) (items : List SetItem)
  deriving Inhabited

namespace Glob

/-- The named class that an opening bracket inside brackets starts, and what follows it. -/
def named? (cs : List Marked) : Option (Chars × List Marked) :=
  match cs with
  | (false, ':') :: rest =>
    let name := (rest.takeWhile fun m => isAsciiLetter m.2).map (·.2)
    match rest.drop name.length with
    | (false, ':') :: (false, ']') :: after =>
      if (characterClass? name).isSome then some (name, after) else none
    | _ => none
  | _ => none

/-- The members between brackets, the first of which may be a closing bracket, and what follows
the closing one. -/
def items : Nat → (isFirst : Bool) → List Marked → Option (List SetItem × List Marked)
  | 0, _, _ => none
  | _, _, [] => none
  | n + 1, isFirst, (q, a) :: rest =>
    let with_ (i : SetItem) (rest : List Marked) : Option (List SetItem × List Marked) :=
      (items n false rest).map fun (is, after) => (i :: is, after)
    if !q && a == ']' && !isFirst then some ([], rest)
    else
      match if !q && a == '[' then named? rest else none with
      | some (name, after) => with_ (.named name) after
      | none =>
        let (a, rest) := match q, a, rest with
          | false, '\\', (_, b) :: more => (b, more)
          | _, a, rest => (a, rest)
        match rest with
        | (false, '-') :: (r, b) :: more =>
          if !r && b == ']' then with_ (.range a a) rest
          else
            match r, b, more with
            | false, '\\', (_, c) :: more => with_ (.range a c) more
            | _, b, more => with_ (.range a b) more
        | rest => with_ (.range a a) rest

/-- The set that an opening bracket starts, and what follows it. -/
def set? (rest : List Marked) : Option (Glob × List Marked) :=
  let (negated, inside) := match rest with
    | (false, '!') :: inside => (true, inside)
    | (false, '^') :: inside => (true, inside)
    | inside => (false, inside)
  (items (inside.length + 1) true inside).map fun (is, after) => (.oneOf negated is, after)

/-- The glob that a word writes. -/
def ofMarked : Nat → List Marked → List Glob
  | 0, _ => []
  | _, [] => []
  | n + 1, (true, c) :: rest => .char c :: ofMarked n rest
  | n + 1, (false, c) :: rest =>
    if c == '*' then .many :: ofMarked n rest
    else if c == '?' then .any :: ofMarked n rest
    else if c == '[' then
      match set? rest with
      | some (g, after) => g :: ofMarked n after
      | none => .char c :: ofMarked n rest
    else if c == '\\' then
      match rest with
      | (_, d) :: more => .char d :: ofMarked n more
      | [] => [.char c]
    else .char c :: ofMarked n rest

/-- The glob of a whole word. -/
def ofWord (cs : List Marked) : List Glob := ofMarked cs.length cs

/-- Whether an element stands for a character. -/
def fits (g : Glob) (c : Char) : Bool :=
  match g with
  | .char d => c == d
  | .any | .many => true
  | .oneOf negated is => negated != is.any (·.fits c)

/-- Whether a glob stands for a text. -/
def isMatch : List Glob → Chars → Bool
  | [], cs => cs.isEmpty
  | .many :: gs, [] => isMatch gs []
  | .many :: gs, c :: cs => isMatch gs (c :: cs) || isMatch (.many :: gs) cs
  | _ :: _, [] => false
  | g :: gs, c :: cs => g.fits c && isMatch gs cs
termination_by gs cs => gs.length + cs.length

/-- A text without its shortest or longest start that a glob stands for. -/
def withoutStart (longest : Bool) (gs : List Glob) (text : Chars) : Chars :=
  let lengths := List.range (text.length + 1)
  match (if longest then lengths.reverse else lengths).find? fun k => isMatch gs (text.take k) with
  | some k => text.drop k
  | none => text

/-- A text without its shortest or longest end that a glob stands for. -/
def withoutEnd (longest : Bool) (gs : List Glob) (text : Chars) : Chars :=
  let lengths := List.range (text.length + 1)
  match (if longest then lengths else lengths.reverse).find? fun k => isMatch gs (text.drop k) with
  | some k => text.take k
  | none => text

/-- Whether a word has anything that does not stand for itself. -/
def isActive : List Marked → Bool
  | [] => false
  | (false, '\\') :: _ :: rest => isActive rest
  | (q, c) :: rest => (!q && (c == '*' || c == '?' || c == '[')) || isActive rest

end Glob

end LintRun.Shell

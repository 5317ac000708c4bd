import LintRun.Pattern.Size
import LintRun.Text.Blank
import LintRun.Text.Digits
import LintRun.Unicode.Alphanumeric

/-!
# The written form of patterns

`Pattern.parse` reads a pattern: literals, classes, groups, repetitions, alternatives,
anchors and flags.  It refuses what is not well formed, what is nested too deeply, what
could match in the middle of a character, and what would need too large an automaton.

Every reader takes at least one character before it calls itself again, so the number of
characters bounds the depth of calls.

The bounds on depth and size are those that the library has by default.
-/

namespace LintRun.Pattern

/-! ## 1. The state of reading -/

/-- What the flags of a pattern say at some point of it. -/
structure Flags where
  ignoreCase : Bool := false
  multiLine : Bool := false
  dotAll : Bool := false
  unicode : Bool := true
  anyLineEnd : Bool := false
  skipBlanks : Bool := false

/-- What is left to read, the flags there, and the groups so far. -/
structure Scan where
  rest : List Char
  flags : Flags := {}
  names : List (List Char) := []
  /-- How many groups there are that keep their match. -/
  groups : Nat := 0
  /-- How many parentheses and brackets are open. -/
  nesting : Nat := 0

/-- A reader of a part of a pattern. -/
abbrev Part (α : Type) := StateT Scan Option α

/-- Fails: the text writes no pattern. -/
def refuse {α : Type} : Part α := failure

/-- Fails unless a condition holds. -/
def demand (b : Bool) : Part Unit := if b then pure () else failure

/-- The flags that hold here. -/
def flags : Part Flags := do return (← get).flags

/-- Changes the flags from here on. -/
def setFlags (f : Flags) : Part Unit := modify fun s => { s with flags := f }

/-- The next character, not taken. -/
def peek : Part (Option Char) := do return (← get).rest.head?

/-- Takes the next character. -/
def take : Part Char := do
  match (← get).rest with
  | c :: cs => do
    modify fun s => { s with rest := cs }
    return c
  | [] => failure

/-- Takes a given text, if it is next. -/
def takeIf (text : String) : Part Bool := do
  let s ← get
  if text.toList.isPrefixOf s.rest then
    set { s with rest := s.rest.drop text.length }
    return true
  else return false

/-- A text without the blanks and comments in front; a comment ends with its line. -/
def dropIgnored (inComment : Bool) : List Char → List Char
  | [] => []
  | c :: cs =>
    if inComment then dropIgnored (c != '\n') cs
    else if isBlank c then dropIgnored false cs
    else if c == '#' then dropIgnored true cs
    else c :: cs

/-- Drops blanks and comments where the flags say that they carry no meaning. -/
def skip : Part Unit := do
  let s ← get
  if s.flags.skipBlanks then set { s with rest := dropIgnored false s.rest }

/-- Takes one character and what is skipped after it. -/
def takeSkip : Part Char := do
  let c ← take
  skip
  return c

/-- Takes characters with what is skipped after each, as long as they pass a test. -/
def takeSkipWhile (p : Char → Bool) : Nat → Part (List Char)
  | 0 => return []
  | n + 1 => do
    match ← peek with
    | some c =>
      if p c then
        let c ← takeSkip
        return c :: (← takeSkipWhile p n)
      else return []
    | none => return []

/-- How many characters are left. -/
def left : Part Nat := do return (← get).rest.length

/-- How deeply a pattern may be nested. -/
def depthLimit : Nat := 250

/-- Reads something one level deeper; what is too deep anyhow is refused at once. -/
def nested {α : Type} (part : Part α) : Part α := do
  demand ((← get).nesting < depthLimit)
  modify fun s => { s with nesting := s.nesting + 1 }
  let a ← part
  modify fun s => { s with nesting := s.nesting - 1 }
  return a

/-! ## 2. Escapes -/

/-- What one primitive stands for. -/
inductive Atom
  /-- A character; `isByte` if it was written with two hexadecimal digits. -/
  | char (c : Char) (isByte : Bool)
  | set (s : CharSet)
  | anchor (a : Anchor)

/-- The characters that have a meaning of their own. -/
def isMeta (c : Char) : Bool := "\\.+*?()|[]\x7b\x7d^$#&-~".toList.contains c

/-- The characters that a backslash may stand before without changing them. -/
def isEscapable (c : Char) : Bool :=
  isMeta c || (c.toNat < 0x80 && !isAsciiAlphanumeric c && c != '<' && c != '>')

/-- The character of a code point in hexadecimal. -/
def hexChar (digits : List Char) : Part Char := do
  let n := numberOf 16 digits
  demand (!digits.isEmpty && n.isValidChar)
  return Char.ofNat n

/-- Exactly `n` hexadecimal digits. -/
def hexDigits : Nat → Part (List Char)
  | 0 => return []
  | n + 1 => do
    let c ← takeSkip
    demand (isDigitOf 16 c)
    return c :: (← hexDigits n)

/-- The digits after `\x`, `\u` or `\U`. -/
def hexEscape (width : Nat) : Part Atom := do
  skip
  if (← peek) == some '\x7b' then
    let _ ← takeSkip
    let digits ← takeSkipWhile (isDigitOf 16) (← left)
    demand ((← peek) == some '\x7d')
    let _ ← takeSkip
    return .char (← hexChar digits) false
  else
    let digits ← hexDigits width
    return .char (← hexChar digits) (width == 2)

/-- A set, or its complement; the complement of an ASCII set is no set of characters. -/
def negatedIf (negated : Bool) (s : CharSet) : Part CharSet := do
  demand (!negated || (← flags).unicode)
  return .complementIf negated s

/-- A set closed under differences in case, where the flags say so. -/
def withCase (s : CharSet) : Part CharSet := do
  let f ← flags
  return if !f.ignoreCase then s else if f.unicode then s.folded else s.folded.intersection .ascii

/-- Splits a name and a value at the first of the given marks. -/
def splitAt? (mark : List Char) : List Char → Option (List Char × List Char)
  | [] => none
  | c :: cs =>
    if mark.isPrefixOf (c :: cs) then some ([], (c :: cs).drop mark.length)
    else (splitAt? mark cs).map fun (a, b) => (c :: a, b)

/-- What is written between the braces of a property. -/
def propertyOf (text : List Char) : Part (CharSet × Bool) := do
  let found (ranges : Option Unicode.Ranges) (negated : Bool) : Part (CharSet × Bool) :=
    match ranges with
    | some ranges => return (.ofRanges ranges, negated)
    | none => refuse
  let valued (name value : List Char) : Option Unicode.Ranges :=
    Unicode.valued? (String.ofList name) (String.ofList value)
  match splitAt? ['!', '='] text with
  | some (name, value) => found (valued name value) true
  | none =>
    match splitAt? [':'] text <|> splitAt? ['='] text with
    | some (name, value) => found (valued name value) false
    | none => found (Unicode.named? (String.ofList text)) false

/-- What follows `\p` or `\P`. -/
def propertyEscape (negated : Bool) : Part Atom := do
  skip
  let (s, alsoNegated) ←
    if (← peek) == some '\x7b' then do
      let _ ← takeSkip
      let text ← takeSkipWhile (· != '\x7d') (← left)
      let _ ← take
      propertyOf text
    else do
      demand ((← peek) != some '\\')
      let c ← takeSkip
      propertyOf [c]
  demand (← flags).unicode
  let s ← withCase s
  return .set (← negatedIf (negated != alsoNegated) s)

/-- The kinds of `\b` that are named in braces. -/
def namedEdge? (unicode : Bool) : String → Option Anchor
  | "start" => some (.wordStart unicode)
  | "end" => some (.wordEnd unicode)
  | "start-half" => some (.wordStartHalf unicode)
  | "end-half" => some (.wordEndHalf unicode)
  | _ => none

/-- What follows `\b`; braces that do not start with a letter belong to a repetition. -/
def edgeEscape : Part Atom := do
  let u := (← flags).unicode
  let isNameChar (c : Char) : Bool := isAsciiLetter c || c == '-'
  if (← peek) == some '\x7b' then
    let before ← get
    let _ ← takeSkip
    match ← peek with
    | none => refuse
    | some c =>
      if isNameChar c then
        let name ← takeSkipWhile isNameChar (← left)
        demand ((← take) == '\x7d')
        match namedEdge? u (String.ofList name) with
        | some a => return .anchor a
        | none => refuse
      else
        set before
        return .anchor (.wordEdge u)
  else return .anchor (.wordEdge u)

/-- What follows a backslash. -/
def escape : Part Atom := do
  let c ← take
  let u := (← flags).unicode
  let named (negated : Bool) (s : CharSet) : Part Atom := do
    return .set (← negatedIf negated s)
  match c with
  | 'x' => hexEscape 2
  | 'u' => hexEscape 4
  | 'U' => hexEscape 8
  | 'p' => propertyEscape false
  | 'P' => propertyEscape true
  | 'd' => named false (.digits u)
  | 'D' => named true (.digits u)
  | 's' => named false (.blanks u)
  | 'S' => named true (.blanks u)
  | 'w' => named false (.wordChars u)
  | 'W' => named true (.wordChars u)
  | 'a' => return .char '\x07' false
  | 'f' => return .char '\x0C' false
  | 't' => return .char '\t' false
  | 'n' => return .char '\n' false
  | 'r' => return .char '\r' false
  | 'v' => return .char '\x0B' false
  | 'A' => return .anchor .textStart
  | 'z' => return .anchor .textEnd
  | 'b' => edgeEscape
  | 'B' => return .anchor (.noWordEdge u)
  | '<' => return .anchor (.wordStart u)
  | '>' => return .anchor (.wordEnd u)
  | c => do
    demand (isEscapable c)
    return .char c false

/-! ## 3. Bracketed classes -/

/-- A set and how deeply it is nested. -/
abbrev Nested (α : Type) := α × Nat

/-- A character that is a member of a class by itself. -/
def classChar (c : Char) : Part Char := do
  demand ((← flags).unicode || c.toNat < 0x80)
  return c

/-- One primitive of a class. -/
def classAtom : Part Atom := do
  let c ← take
  if c == '\\' then escape else return .char c false

/-- The set of a primitive. -/
def atomSet : Atom → Part CharSet
  | .char c _ => do withCase (.ofChar (← classChar c))
  | .set s => return s
  | .anchor _ => refuse

/-- A primitive, or a range of characters. -/
def classRange : Part CharSet := do
  let first ← classAtom
  skip
  demand (← peek).isSome
  let isRange ← do
    if (← peek) == some '-' then
      let before ← get
      let _ ← takeSkip
      let next ← peek
      set before
      pure (next != some ']' && next != some '-')
    else pure false
  if isRange then
    let _ ← takeSkip
    demand (← peek).isSome
    match first, ← classAtom with
    | .char low _, .char high _ => do
      demand (low ≤ high)
      withCase (.range (← classChar low) (← classChar high))
    | _, _ => refuse
  else atomSet first

/-- A class named between `[:` and `:]`, and whether it is negated, if there is one. -/
def className? : Part (Option (CharSet × Bool)) := do
  let before ← get
  let attempt : Part (CharSet × Bool) := do
    demand (← takeIf "[:")
    let negated ← takeIf "^"
    let s ← get
    let name := s.rest.takeWhile (· != ':')
    set { s with rest := s.rest.drop name.length }
    demand (← takeIf ":]")
    match CharSet.asciiClass? (String.ofList name) with
    | some s => return (s, negated)
    | none => refuse
  match attempt before with
  | some (s, after) => do
    set after
    return some s
  | none => return none

/-- Operators between sets. -/
def operator? : Part (Option (CharSet → CharSet → CharSet)) := do
  if ← takeIf "&&" then return some .intersection
  else if ← takeIf "--" then return some .difference
  else if ← takeIf "~~" then return some .symmetricDifference
  else return none

/-- Minus signs in front of a class, which are members. -/
def leadingMinuses : Nat → Part (List CharSet)
  | 0 => return []
  | n + 1 => do
    if (← peek) == some '-' then
      let _ ← takeSkip
      return .ofChar '-' :: (← leadingMinuses n)
    else return []

/-- The members of a list as one set, one level deeper if there are several. -/
def unionItem (items : List (Nested CharSet)) : Nested CharSet :=
  let depth := (items.map (·.2)).foldl max 0
  (CharSet.unionOf (items.map (·.1)), if items.length ≤ 1 then depth else depth + 1)

/-- What an operator makes of the set before it and the one after it. -/
def applyOperator (pending : Option (Nested CharSet × (CharSet → CharSet → CharSet)))
    (right : Nested CharSet) : Nested CharSet :=
  match pending with
  | none => right
  | some (left, op) => (op left.1 right.1, 1 + max left.2 right.2)

mutual

/-- A class after its opening bracket. -/
def bracketed : Nat → Part (Nested CharSet)
  | 0 => refuse
  | fuel + 1 => do
    skip
    let negated ← takeIf "^"
    skip
    let minuses ← leadingMinuses (← left)
    let first ←
      if minuses.isEmpty && (← peek) == some ']' then do
        let _ ← takeSkip
        pure [CharSet.ofChar ']']
      else pure minuses
    let (s, depth) ← classItems fuel none (first.map fun s => (s, 0))
    return (← negatedIf negated s, depth + 1)

/-- The members of a class up to its closing bracket; `pending` is what stands before the
last operator, with it, and `items` the members since. -/
def classItems : Nat → Option (Nested CharSet × (CharSet → CharSet → CharSet)) →
    List (Nested CharSet) → Part (Nested CharSet)
  | 0, _, _ => refuse
  | fuel + 1, pending, items => do
    skip
    match ← peek with
    | none => refuse
    | some ']' => do
      let _ ← take
      return applyOperator pending (unionItem items)
    | some '[' => do
      match ← className? with
      | some (s, negated) => do
        let s ← negatedIf negated (← withCase s)
        classItems fuel pending ((s, 0) :: items)
      | none => do
        let _ ← take
        let inner ← nested (bracketed fuel)
        classItems fuel pending (inner :: items)
    | some _ => do
      match ← operator? with
      | some op => classItems fuel (some (applyOperator pending (unionItem items), op)) []
      | none => do
        let s ← classRange
        classItems fuel pending ((s, 0) :: items)

end

/-! ## 4. Groups and repetitions -/

/-- A flag letter with the value it is given. -/
def Flags.assign (f : Flags) (value : Bool) : Char → Option Flags
  | 'i' => some { f with ignoreCase := value }
  | 'm' => some { f with multiLine := value }
  | 's' => some { f with dotAll := value }
  | 'U' => some f
  | 'u' => some { f with unicode := value }
  | 'R' => some { f with anyLineEnd := value }
  | 'x' => some { f with skipBlanks := value }
  | _ => none

/-- Flag letters, each once, with at most one minus that has a letter after it. -/
def flagLetters (letters : List Char) (f : Flags) : Part Flags := do
  demand (letters.eraseDups.length == letters.length)
  demand (letters.getLast? != some '-')
  let on := letters.takeWhile (· != '-')
  let off := (letters.dropWhile (· != '-')).drop 1
  match on.foldlM (fun f c => f.assign true c) f >>= fun f =>
      off.foldlM (fun f c => f.assign false c) f with
  | some f => return f
  | none => refuse

/-- Whether a character may stand in a group name. -/
def isNameChar (isFirst : Bool) (c : Char) : Bool :=
  c == '_' || Unicode.isAlphabetic c ||
    (!isFirst && (c == '.' || c == '[' || c == ']' || Unicode.isNumeric c))

/-- The rest of a group name, which no other group has. -/
def groupName : Part Unit := do
  let s ← get
  let name := s.rest.takeWhile (· != '>')
  set { s with rest := s.rest.drop name.length, names := name :: s.names }
  demand ((← take) == '>')
  demand (match name with
    | [] => false
    | c :: cs => isNameChar true c && cs.all (isNameChar false))
  demand (!s.names.contains name)

/-- How a group starts: with flags for what follows it, or with an inside, whose match may be
kept under a number. -/
inductive Opening
  | flags (f : Flags)
  | inside (f : Flags) (index : Option Nat)

/-- The opening of a group that keeps its match. -/
def keeping (f : Flags) : Part Opening := do
  modify fun s => { s with groups := s.groups + 1 }
  return .inside f (some (← get).groups)

/-- What follows an opening parenthesis. -/
def opening : Part Opening := do
  skip
  let f ← flags
  for text in ["?=", "?!", "?<=", "?<!"] do
    if ← takeIf text then refuse
  if (← takeIf "?P<") || (← takeIf "?<") then
    groupName
    keeping f
  else if ← takeIf "?" then
    let s ← get
    let letters := s.rest.takeWhile fun c => c != ':' && c != ')'
    set { s with rest := s.rest.drop letters.length }
    let f ← flagLetters letters f
    if (← take) == ')' then
      demand (!letters.isEmpty)
      return .flags f
    else return .inside f none
  else keeping f

/-- Digits with blanks around them; `none` if there are no digits. -/
def count : Part (Option Nat) := do
  modify fun s => { s with rest := s.rest.dropWhile isBlank }
  let digits ← takeSkipWhile isDecimal (← left)
  modify fun s => { s with rest := s.rest.dropWhile isBlank }
  skip
  let n := numberOf 10 digits
  demand (n < 4294967296)
  return if digits.isEmpty then none else some n

/-- The bounds of a repetition after its opening brace. -/
def bounds : Part (Nat × Option Nat) := do
  skip
  let some least ← count | refuse
  let most ←
    if (← peek) == some ',' then do
      let _ ← takeSkip
      if (← peek) == some '\x7d' then pure none
      else
        let some most ← count | refuse
        pure (some most)
    else pure (some least)
  demand ((← takeSkip) == '\x7d')
  demand (most.all (least ≤ ·))
  return (least, most)

/-! ## 5. Patterns -/

/-- One thing of a sequence: a pattern, or flags, which cannot be repeated. -/
inductive Item
  | pattern (p : Nested Pattern)
  | flags

/-- The pattern of a primitive. -/
def atomPattern : Atom → Part Pattern
  | .char c isByte => do
    let u := (← flags).unicode
    demand (u || !isByte || c.toNat < 0x80)
    if u || c.toNat < 0x80 then return .ofSet (← withCase (.ofChar c))
    else return .literal [c]
  | .set s => return .ofSet s
  | .anchor a => return .anchor a

/-- Any character but the ends of lines, or any at all. -/
def dot : Part Pattern := do
  let f ← flags
  demand f.unicode
  if f.dotAll then return .oneOf .all
  else return .oneOf (CharSet.ofChars (if f.anyLineEnd then ['\n', '\r'] else ['\n'])).complement

/-- A primitive outside of classes. -/
def primitive : Part Pattern := do
  let f ← flags
  match ← take with
  | '\\' => do atomPattern (← escape)
  | '.' => dot
  | '^' => return .anchor (if f.multiLine then .lineStart f.anyLineEnd else .textStart)
  | '$' => return .anchor (if f.multiLine then .lineEnd f.anyLineEnd else .textEnd)
  | c => atomPattern (.char c false)

/-- Some patterns as one, one level deeper if there are several; the last comes first. -/
def combined (combine : List Pattern → Pattern) : List (Nested Pattern) → Nested Pattern
  | [] => (.empty, 0)
  | [p] => p
  | ps => (combine (ps.map (·.1)).reverse, (ps.map (·.2)).foldl max 0 + 1)

/-- The things of a sequence as one pattern; the last comes first. -/
def sequenceOf (items : List Item) : Nested Pattern :=
  combined .inSequence (items.map fun
    | .pattern p => p
    | .flags => (.empty, 0))

/-- Repeats the last thing of a sequence, which comes first. -/
def repeatLast (items : List Item) (least : Nat) (most : Option Nat) : Part (List Item) :=
  match items with
  | .pattern (p, depth) :: others =>
    return .pattern (p.repeatedly least most, depth + 1) :: others
  | _ => refuse

/-- The mark that asks for the shortest match, which changes nothing here. -/
def lazyMark : Part Unit := do let _ ← takeIf "?"

/-- The pattern of a group. -/
def groupOf (index : Option Nat) (p : Pattern) : Pattern :=
  match index with
  | some i => .group i p
  | none => p

/-- Alternatives up to a closing parenthesis or the end; `done` are those before and
`items` what stands in the present one, the last first. -/
def alternatives : Nat → List (Nested Pattern) → List Item → Part (Nested Pattern)
  | 0, _, _ => refuse
  | fuel + 1, done, items => do
    skip
    let repeatWith (least : Nat) (most : Option Nat) : Part (List Item) := do
      let items ← repeatLast items least most
      lazyMark
      return items
    match ← peek with
    | none | some ')' => return combined .inChoice (sequenceOf items :: done)
    | some '|' => do
      let _ ← take
      alternatives fuel (sequenceOf items :: done) []
    | some '(' => do
      let _ ← take
      let outer ← flags
      match ← opening with
      | .flags f => do
        setFlags f
        alternatives fuel done (.flags :: items)
      | .inside f index => do
        setFlags f
        let (p, depth) ← nested (alternatives fuel [] [])
        demand ((← take) == ')')
        setFlags outer
        alternatives fuel done (.pattern (groupOf index p, depth + 1) :: items)
    | some '[' => do
      let _ ← take
      let (s, depth) ← nested (bracketed fuel)
      alternatives fuel done (.pattern (.ofSet s, depth) :: items)
    | some '?' => do
      let _ ← take
      alternatives fuel done (← repeatWith 0 (some 1))
    | some '*' => do
      let _ ← take
      alternatives fuel done (← repeatWith 0 none)
    | some '+' => do
      let _ ← take
      alternatives fuel done (← repeatWith 1 none)
    | some '\x7b' => do
      let _ ← take
      let (least, most) ← bounds
      alternatives fuel done (← repeatWith least most)
    | some _ => do
      let p ← primitive
      alternatives fuel done (.pattern (p, 0) :: items)

/-- The pattern that a text writes, if it is well formed. -/
def read? (text : String) : Option Pattern := do
  let cs := text.toList
  let ((p, depth), s) ← alternatives (2 * cs.length + 2) [] [] { rest := cs }
  if s.rest.isEmpty && depth ≤ depthLimit then some p else none

/-- Why a text is refused as a pattern. -/
inductive Fault
  | malformed
  | tooLarge
  deriving DecidableEq, Inhabited

/-- The wording of a fault; what is wrong with a malformed pattern is not told. -/
def Fault.message : Fault → String
  | .malformed => "regex parse error:"
  | .tooLarge => "Compiled regex exceeds size limit of " ++ toString Draft.limit ++ " bytes."

/-- The pattern that a text writes, or why it writes none. -/
def parse (text : String) : Except Fault Pattern :=
  match read? text with
  | none => .error .malformed
  | some p => if p.fits then .ok p else .error .tooLarge

end LintRun.Pattern

import LintRun.Machine.Utility.Basic
import LintRun.Shell.Glob

/-!
# Translating characters

A set of characters is written as a text with ranges, classes and repetitions.  `tr` maps the
characters of one set to those of another, takes some away, or writes runs of one character once.

* `CharSet.read` reads a set;
* `translation` pairs two sets up.
-/

namespace LintRun.Utility

/-! ## 1. Sets -/

/-- A part of a set of characters. -/
inductive SetPart
  | one (c : Char)
  | range (first last : Char)
  | kind (name : String)
  | same (c : Char)
  /-- A character so many times, or as often as it takes. -/
  | repeated (c : Char) (count? : Option Nat)
  deriving DecidableEq, Inhabited

namespace CharSet

/-- A character of a text, and whether a backslash makes it stand for itself. -/
abbrev Marked := Char × Bool

/-- Whether a character stands at the start of a text without a backslash. -/
def starts (c : Char) : List Marked → Bool
  | (d, isKept) :: _ => c == d && !isKept
  | [] => false

/-- The characters of a text whose escapes are resolved. -/
def unescape : Chars → List Marked
  | [] => []
  | ['\\'] => [('\\', false)]
  | '\\' :: c :: cs =>
    match c with
    | 'a' => ('\x07', true) :: unescape cs
    | 'b' => ('\x08', true) :: unescape cs
    | 'f' => ('\x0C', true) :: unescape cs
    | 'n' => ('\n', true) :: unescape cs
    | 'r' => ('\r', true) :: unescape cs
    | 't' => ('\t', true) :: unescape cs
    | 'v' => ('\x0B', true) :: unescape cs
    | c =>
      if '0' ≤ c && c ≤ '7' then
        match cs with
        | d :: e :: cs =>
          let isOctal (c : Char) : Bool := '0' ≤ c && c ≤ '7'
          if isOctal d && isOctal e && numberOf 8 [c, d, e] < 256 then
            (Char.ofNat (numberOf 8 [c, d, e]), true) :: unescape cs
          else if isOctal d then (Char.ofNat (numberOf 8 [c, d]), true) :: unescape (e :: cs)
          else (Char.ofNat (numberOf 8 [c]), true) :: unescape (d :: e :: cs)
        | [d] =>
          if '0' ≤ d && d ≤ '7' then [(Char.ofNat (numberOf 8 [c, d]), true)]
          else (Char.ofNat (numberOf 8 [c]), true) :: unescape [d]
        | [] => [(Char.ofNat (numberOf 8 [c]), true)]
      else (c, true) :: unescape cs
  | c :: cs => (c, false) :: unescape cs

/-- The warnings that the escapes of a text give rise to. -/
def warnings : Chars → List Chars
  | [] => []
  | ['\\'] => ["warning: an unescaped backslash at end of string is not portable".toList]
  | '\\' :: c :: cs =>
    match c, cs with
    | c, d :: e :: _ =>
      let isOctal (c : Char) : Bool := '0' ≤ c && c ≤ '7'
      if isOctal c && isOctal d && isOctal e && numberOf 8 [c, d, e] ≥ 256 then
        ("warning: the ambiguous octal escape \\".toList ++ [c, d, e] ++
          " is being\n\tinterpreted as the 2-byte sequence \\0".toList ++ [c, d] ++
          ", ".toList ++ [e]) :: warnings cs
      else warnings cs
    | _, _ => warnings cs
  | _ :: cs => warnings cs

/-- A text as messages show it. -/
def shownText (cs : Chars) : Chars :=
  cs.flatMap fun c =>
    if c == '\\' then ['\\', '\\']
    else if ' ' ≤ c && c ≤ '~' then [c]
    else
      let ds := Nat.toDigits 8 c.toNat
      '\\' :: List.replicate (3 - ds.length) '0' ++ ds

/-- All characters. -/
def allBytes : Chars := (List.range 256).map Char.ofNat

/-- The characters of a class. -/
def ofKind (name : String) : Chars :=
  match Shell.characterClass? name.toList with
  | some f => allBytes.filter f
  | none => []

/-- Whether a text is a star, digits and a closing bracket at its start. -/
def looksRepeated : List Marked → Bool
  | ('*', false) :: ms =>
    starts ']' (ms.dropWhile fun m => isDecimal m.1 && !m.2)
  | _ => false

/-- The part in brackets that a text starts with after a bracket, with what follows; a text that
is no such part stands for itself. -/
def repetition? : List Marked → Except Chars (Option (SetPart × List Marked))
  | (c, _) :: ('*', false) :: ms =>
    let digits := (ms.takeWhile fun m => !m.2 && m.1 != ']').map (·.1)
    if !starts ']' (ms.drop digits.length) then .ok none
    else
      let rest := ms.drop (digits.length + 1)
      let base := if digits.head? = some '0' then 8 else 10
      if digits.isEmpty then .ok (some (.repeated c none, rest))
      else if digits.all (isDigitOf base) && numberOf base digits < Nat.pow 2 63 then
        let n := numberOf base digits
        .ok (some (.repeated c (if n = 0 then none else some n), rest))
      else
        .error ("invalid repeat count ".toList ++ Quoting.plainly (shownText digits) ++
          " in [c*n] construct".toList)
  | _ => .ok none

/-- The class that a text starts with after a bracket, with what follows. -/
def class? : List Marked → Except Chars (Option (SetPart × List Marked))
  | (k, false) :: ms =>
    if k != ':' && k != '=' then .ok none
    else
      match closing k 0 ms with
      | none => .ok none
      | some n =>
        let text := (ms.take n).map (·.1)
        let rest := ms.drop (n + 2)
        let name := String.ofList text
        if text.isEmpty then
          .error (if k == ':' then "missing character class name '[::]'".toList
            else "missing equivalence class character '[==]'".toList)
        else if k == ':' then
          if (Shell.characterClass? text).isSome then .ok (some (.kind name, rest))
          else if looksRepeated ms then .ok none
          else .error ("invalid character class ".toList ++ Quoting.plainly (shownText text))
        else
          match text with
          | [c] => .ok (some (.same c, rest))
          | _ =>
            if looksRepeated ms then .ok none
            else
              .error (shownText text ++
                ": equivalence class operand must be a single character".toList)
  | _ => .ok none
where
  closing (k : Char) : Nat → List Marked → Option Nat
    | n, m :: ms =>
      if m.2 then none
      else if m.1 == k && starts ']' ms then some n
      else closing k (n + 1) ms
    | _, [] => none

/-- Reads the parts of a set; each takes at least one character. -/
def parts : Nat → List Marked → Except Chars (List SetPart)
  | 0, _ => .ok []
  | n + 1, ms => do
    match ms with
    | m :: a :: b :: more =>
      let rest := a :: b :: more
      let bracketed : Option (SetPart × List Marked) ←
        if starts '[' [m] then
          match ← class? rest with
          | some r => pure (some r)
          | none => repetition? rest
        else pure none
      match bracketed with
      | some (part, rest) => return part :: (← parts n rest)
      | none =>
        if starts '-' [a] then
          if b.1 < m.1 then
            throw ("range-endpoints of '".toList ++ shownText [m.1] ++ '-' :: shownText [b.1] ++
              "' are in reverse collating sequence order".toList)
          return .range m.1 b.1 :: (← parts n more)
        else return .one m.1 :: (← parts n rest)
    | ms => return ms.map fun m => .one m.1

/-- The set that a text writes. -/
def read (text : Chars) : Except Chars (List SetPart) :=
  let ms := unescape text
  parts ms.length ms

end CharSet

namespace SetPart

/-- The characters of a part; an open repetition has none. -/
def chars : SetPart → Chars
  | .one c => [c]
  | .range a b => (List.range (b.toNat + 1 - a.toNat)).map fun k => Char.ofNat (a.toNat + k)
  | .kind name => CharSet.ofKind name
  | .same c => [c]
  | .repeated c count? => List.replicate (count?.getD 0) c

/-- Whether a part repeats as often as it takes. -/
def isOpen : SetPart → Bool
  | .repeated _ none => true
  | _ => false

/-- Whether a part is a class of characters. -/
def isKind : SetPart → Bool
  | .kind _ => true
  | _ => false

/-- Whether a part is a class of letters of one case. -/
def isCase (p : SetPart) : Bool := p = .kind "lower" || p = .kind "upper"

/-- Whether a part stands for equal characters. -/
def isSame : SetPart → Bool
  | .same _ => true
  | _ => false

end SetPart

/-! ## 2. Pairs of sets -/

/-- How many characters parts have. -/
def sizeOfSet (ps : List SetPart) : Nat := (ps.map (·.chars.length)).foldl (· + ·) 0

/-- What a character is mapped to. -/
abbrev Translation := List (Char × Char)

/-- The letters of one case as those of another. -/
def caseTranslation (source goal : String) : Translation :=
  if source = goal then []
  else (CharSet.ofKind source).map fun c =>
    (c, if goal = "upper" then c.toUpper else c.toLower)

/-- Pairs the characters of two sets.  A class of letters in the second needs one in the first at
the same place. -/
def pairs : Nat → List SetPart → List SetPart → Except Chars Translation
  | 0, _, _ => .ok []
  | _, [], _ => .ok []
  | _, _, [] => .ok []
  | n + 1, p :: ps, q :: qs =>
    match p, q with
    | .kind a, .kind b =>
      if p.isCase && q.isCase then do return caseTranslation a b ++ (← pairs n ps qs)
      else .error misaligned
    | p, .kind b =>
      match p.chars with
      | [] => pairs n ps (.kind b :: qs)
      | _ => .error misaligned
    | p, q =>
      match p.chars, q.chars with
      | [], _ => pairs n ps (q :: qs)
      | _, [] => pairs n (p :: ps) qs
      | cs, ds => do
        let both := min cs.length ds.length
        let rest (xs : Chars) (more : List SetPart) : List SetPart :=
          (xs.drop both).map .one ++ more
        return cs.zip ds ++ (← pairs n (rest cs ps) (rest ds qs))
where
  misaligned : Chars := "misaligned [:upper:] and/or [:lower:] construct".toList

/-- A set whose open repetition fills it up to a size. -/
def filled (size : Nat) (qs : List SetPart) : List SetPart :=
  qs.map fun q =>
    match q with
    | .repeated c none => .repeated c (some (size - sizeOfSet qs))
    | q => q

/-- A set whose last character is repeated up to a size. -/
def extended (size : Nat) (qs : List SetPart) : Except Chars (List SetPart) :=
  if size ≤ sizeOfSet qs then .ok qs
  else
    match qs.getLast? with
    | some (.kind _) =>
      .error ("when translating with string1 longer than string2,\n" ++
        "the latter string must not end with a character class").toList
    | q? =>
      match q?.bind (·.chars.getLast?) with
      | some c => .ok (qs ++ [.repeated c (some (size - sizeOfSet qs))])
      | none => .error "when not truncating set1, string2 must be non-empty".toList

/-- How characters are translated, or what is wrong with the sets. -/
def translation (isComplement truncates : Bool) (ps qs : List SetPart) :
    Except Chars Translation := do
  let inFirst := ps.flatMap (·.chars)
  let others := CharSet.allBytes.filter (!inFirst.contains ·)
  let size := if isComplement then others.length else sizeOfSet ps
  let qs := filled size qs
  let rounds := ps.length + qs.length + size + sizeOfSet qs + 1
  if qs.any (·.isSame) then
    throw "[=c=] expressions may not appear in string2 when translating".toList
  if qs.any fun q => q.isKind && !q.isCase then
    throw ("when translating, the only character classes that may appear in\n" ++
      "string2 are 'upper' and 'lower'").toList
  if !isComplement then
    let _ ← pairs rounds ps qs
  let qs ← if truncates then pure qs else extended size qs
  if isComplement then
    let goals := qs.flatMap (·.chars)
    if ps.any (·.isKind) && !(goals.length = size && goals.eraseDups.length ≤ 1) then
      throw ("when translating with complemented character classes,\n" ++
        "string2 must map all characters in the domain to one").toList
    return others.zip goals
  else pairs (rounds + size) ps qs

/-! ## 3. The utility -/

/-- A text in which each run of one of some characters is that character once. -/
def squeezed (isSqueezed : Char → Bool) : Option Char → Chars → Chars
  | _, [] => []
  | last?, c :: cs =>
    if last? = some c && isSqueezed c then squeezed isSqueezed last? cs
    else c :: squeezed isSqueezed (some c) cs

/-- Translates, squeezes and takes away characters of its input. -/
def tr : Utility := fun t => do
  let fs ← flagsOf t 1
    ["c,complement", "C", "d,delete", "s,squeeze-repeats", "t,truncate-set1"] false
  let isComplement := fs.has "c" || fs.has "C"
  let (deletes, squeezes) := (fs.has "d", fs.has "s")
  let quotedLast := Quoting.plainly (fs.operands.getLastD [])
  let wrong (what : Chars) (hint : String) : Step PUnit := do
    complain t what
    if !hint.isEmpty then Step.act (t.put 2 (hint.toList ++ ['\n']))
    Step.act (t.put 2 ("Try '".toList ++ t.title ++ " --help' for more information.\n".toList))
    Step.exit 1
  let least := if deletes == squeezes then 2 else 1
  let most := if deletes && !squeezes then 1 else 2
  if fs.operands.length < least then
    if fs.operands.isEmpty then wrong "missing operand".toList ""
    else
      wrong ("missing operand after ".toList ++ quotedLast)
        (if squeezes then "Two strings must be given when both deleting and squeezing repeats."
          else "Two strings must be given when translating.")
  if fs.operands.length > most then
    wrong ("extra operand ".toList ++ Quoting.plainly (fs.operands.getD most []))
      (if fs.operands.length = 2 then
        "Only one string may be given when deleting without squeezing repeats." else "")
  let readSet (text : Chars) : Step (List SetPart) := do
    for w in CharSet.warnings text do complain t w
    match CharSet.read text with
    | .ok ps => return ps
    | .error message =>
      complain t message
      Step.exit 1
  let first ← readSet (fs.operands.headD [])
  let second ← (fs.operands[1]?).mapM readSet
  let fail {α : Type} (message : Chars) : Step α := do
    complain t message
    Step.exit 1
  if first.any (·.isOpen) then
    fail "the [c*] repeat construct may not appear in string1".toList
  if ((second.getD []).filter (·.isOpen)).length > 1 then
    fail "only one [c*] repeat construct may appear in string2".toList
  let has (ps : List SetPart) (c : Char) : Bool := (ps.flatMap (·.chars)).contains c
  let inFirst (c : Char) : Bool := has first c != isComplement
  let text ← match ← content t ['-'] with
    | .ok text => pure text
    | .error e => fail ("read error: ".toList ++ e.reason.toList)
  match second with
  | none =>
    print t (if deletes then text.filter (!inFirst ·) else squeezed inFirst none text)
  | some second =>
    if deletes then
      if second.any (·.isOpen) then
        fail "the [c*] construct may appear in string2 only when translating".toList
      print t (squeezed (has second) none (text.filter (!inFirst ·)))
    else
      match translation isComplement (fs.has "t") first second with
      | .error message => fail message
      | .ok table =>
        let table := table.reverse
        let mapped (c : Char) : Char := (table.lookup c).getD c
        let out := text.map mapped
        print t (if squeezes then squeezed (goalHas second table) none out else out)
  return 0
where
  goalHas (second : List SetPart) (table : Translation) (c : Char) : Bool :=
    (second.flatMap (·.chars)).contains c || (second.any (·.isOpen) && table.any (·.2 == c))

end LintRun.Utility

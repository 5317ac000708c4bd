import LintRun.Machine.Utility.Basic
import LintRun.Text.Pieces

/-!
# Utilities that show files

Programs that write what is in files: all of it, a part of it, in another order, with numbers or
counted.
-/

namespace LintRun.Utility

/-! ## 1. Whole files -/

/-- A byte made visible. -/
def visible (showsTabs : Bool) (c : Char) : Chars :=
  let low (n : Nat) : Chars :=
    if n < 32 then ['^', Char.ofNat (n + 64)] else if n = 127 then ['^', '?'] else [Char.ofNat n]
  if c == '\n' then [c]
  else if c == '\t' then if showsTabs then ['^', 'I'] else [c]
  else if c.toNat < 128 then low c.toNat
  else 'M' :: '-' :: low (c.toNat - 128)

/-- How lines are shown. -/
structure LineStyle where
  numbersAll : Bool := false
  numbersFull : Bool := false
  squeezes : Bool := false
  showsEnds : Bool := false
  showsTabs : Bool := false
  showsOthers : Bool := false

/-- What showing lines has come to. -/
structure LineCount where
  number : Nat := 0
  /-- Whether the last line was empty. -/
  wasEmpty : Bool := false
  /-- Whether the last line had no end. -/
  isOpen : Bool := false

/-- Shows one line. -/
def shownLine (s : LineStyle) (k : LineCount) (line : Chars) : Chars × LineCount :=
  let isEmpty := line = ['\n'] && !k.isOpen
  let hasEnd := line.getLast? = some '\n'
  if isEmpty && s.squeezes && k.wasEmpty then ([], { k with wasEmpty := true, isOpen := false })
  else
    let hasNumber := !k.isOpen && (if s.numbersFull then !isEmpty else s.numbersAll)
    let number := if hasNumber then k.number + 1 else k.number
    let start := if hasNumber then rightAligned 6 (digits number) ++ ['\t'] else []
    let body := if hasEnd then line.dropLast else line
    let (body, isReturn) := if s.showsEnds && !s.showsOthers && hasEnd &&
        body.getLast? = some '\r' then (body.dropLast, true) else (body, false)
    let body := if s.showsOthers then body.flatMap (visible s.showsTabs)
      else if s.showsTabs then body.flatMap fun c => if c == '\t' then ['^', 'I'] else [c]
      else body
    let body := if isReturn then body ++ ['^', 'M'] else body
    (start ++ body ++ (if hasEnd then if s.showsEnds then ['$', '\n'] else ['\n'] else []),
      { number, wasEmpty := isEmpty, isOpen := !hasEnd })

/-- Shows lines one after another. -/
def shownLines (s : LineStyle) : LineCount → List Chars → Chars × LineCount
  | k, [] => ([], k)
  | k, line :: lines =>
    let (text, k) := shownLine s k line
    let (more, k) := shownLines s k lines
    (text ++ more, k)

/-- Shows sources one after another. -/
def showSources (t : Task) (s? : Option LineStyle) : LineCount → List Chars → Step Bool
  | _, [] => return true
  | k, name :: names => do
    match ← content t name with
    | .error e =>
      complainNamed t name e
      let _ ← showSources t s? k names
      return false
    | .ok text =>
      match s? with
      | none =>
        print t text
        showSources t s? k names
      | some s =>
        let (shown, k) := shownLines s k (linesOf text)
        print t shown
        showSources t s? k names

/-- Writes its sources one after another. -/
def cat : Utility := fun t => do
  let fs ← flagsOf t 1 ["A,show-all", "b,number-nonblank", "e", "E,show-ends", "n,number",
    "s,squeeze-blank", "t", "T,show-tabs", "u", "v,show-nonprinting"]
  let any (keys : List String) : Bool := keys.any fs.has
  let s : LineStyle := {
    numbersAll := fs.has "n"
    numbersFull := fs.has "b"
    squeezes := fs.has "s"
    showsEnds := any ["A", "e", "E"]
    showsTabs := any ["A", "t", "T"]
    showsOthers := any ["A", "e", "t", "v"] }
  let isPlain := fs.given.all fun g => g.1 = ['u']
  return codeOf (← showSources t (if isPlain then none else some s) {} (sourcesOf fs.operands))

/-! ## 2. Parts of files -/

/-- How much of a text is wanted. -/
structure Amount where
  inBytes : Bool := false
  count : Nat := 10
  /-- Whether the count is from the other end. -/
  isOther : Bool := false
  /-- Whether lines end with a zero byte. -/
  isZero : Bool := false

/-- The units that a count may have. -/
def countUnits : List (String × Nat) := [
  ("", 1), ("b", 512), ("kB", 1000), ("K", 1024), ("k", 1024), ("KiB", 1024), ("MB", 1000000),
  ("M", 1048576), ("m", 1048576), ("MiB", 1048576), ("GB", 1000000000), ("G", 1073741824),
  ("GiB", 1073741824)]

/-- A count with a unit. -/
def countOf? (w : Chars) : Option Nat :=
  let ds := w.takeWhile isDecimal
  if ds.isEmpty then none
  else (countUnits.lookup (String.ofList (w.drop ds.length))).map (· * numberOf 10 ds)

/-- The lines of a text with their ends. -/
def Amount.lines (a : Amount) (text : Chars) : List Chars :=
  if a.isZero then
    let parts := pieces (· == '\x00') text
    parts.dropLast.map (· ++ ['\x00']) ++ (parts.drop (parts.length - 1)).filter (!·.isEmpty)
  else linesOf text

/-- The start of a text. -/
def Amount.firsts (a : Amount) (text : Chars) : Chars :=
  if a.inBytes then text.take (if a.isOther then text.length - a.count else a.count)
  else
    let lines := a.lines text
    (lines.take (if a.isOther then lines.length - a.count else a.count)).flatten

/-- The end of a text, or what comes from a place on. -/
def Amount.lasts (a : Amount) (text : Chars) : Chars :=
  if a.inBytes then text.drop (if a.isOther then a.count - 1 else text.length - a.count)
  else
    let lines := a.lines text
    (lines.drop (if a.isOther then a.count - 1 else lines.length - a.count)).flatten

/-- How a source is called above its text. -/
def sourceTitle (name : Chars) : Chars :=
  "==> ".toList ++ (if name = ['-'] then "standard input".toList else name) ++ " <==\n".toList

/-- Shows a part of each source. -/
def showParts (t : Task) (hasTitles : Bool) (part : Chars → Chars) : (isFirst : Bool) →
    List Chars → Step Bool
  | _, [] => return true
  | isFirst, name :: names => do
    let title := if hasTitles then (if isFirst then [] else ['\n']) ++ sourceTitle name else []
    match ← content t name with
    | .ok text =>
      print t (title ++ part text)
      showParts t hasTitles part false names
    | .error .isDirectory =>
      print t title
      complainOf t "error reading ".toList name .isDirectory
      let _ ← showParts t hasTitles part false names
      return false
    | .error e =>
      complain t ("cannot open ".toList ++ Quoting.quoted name ++ " for reading: ".toList ++
        e.reason.toList)
      let _ ← showParts t hasTitles part isFirst names
      return false

/-- The amount that flags ask for, given the sign that means the other end. -/
def amountOf (t : Task) (fs : Flags) (other : Char) : Step Amount := do
  let key? := fs.last? ["c", "n"]
  let a : Amount := { isZero := fs.has "z" }
  match key? with
  | none => return a
  | some key =>
    let w := (fs.value? key).getD []
    let (isOther, ds) := match w with
      | c :: ds => if c == '-' || c == '+' then (c == other, ds) else (false, w)
      | [] => (false, [])
    match countOf? ds with
    | some count => return { a with inBytes := key == "c", count, isOther }
    | none =>
      let what := if key == "c" then "bytes" else "lines"
      complain t (("invalid number of ".toList ++ what.toList ++ ": ".toList) ++
        Quoting.plainly (if isOther || w.head? = some '-' then w else w))
      Step.exit 1

/-- An old way to ask for a number of lines, as a flag. -/
def oldCount : List Chars → List Chars
  | ('-' :: d :: ds) :: more =>
    if isDecimal d then
      let number := (d :: ds).takeWhile isDecimal
      let letters := (d :: ds).drop number.length
      let flag := if letters.contains 'c' then ['-', 'c'] else ['-', 'n']
      (flag ++ number) :: (letters.filter fun c => c == 'q' || c == 'v' || c == 'z').map
        (fun c => ['-', c]) ++ more
    else ('-' :: d :: ds) :: more
  | args => args

/-- Writes the start of its sources. -/
def head : Utility := fun t => do
  let fs ← flagsOf { t with arguments := oldCount t.arguments } 1
    ["c,bytes=", "n,lines=", "q,quiet", "q,silent", "v,verbose", "z,zero-terminated"]
  let a ← amountOf t fs '-'
  let names := sourcesOf fs.operands
  let hasTitles := match fs.last? ["q", "v"] with
    | some key => key == "v"
    | none => names.length > 1
  return codeOf (← showParts t hasTitles a.firsts true names)

/-- Writes the end of its sources. -/
def tail : Utility := fun t => do
  let args := match t.arguments with
    | ('+' :: d :: ds) :: more =>
      if (d :: ds).all isDecimal && more.length ≤ 1 then ('-' :: 'n' :: '+' :: d :: ds) :: more
      else t.arguments
    | args => oldCount args
  let fs ← flagsOf { t with arguments := args } 1
    ["c,bytes=", "n,lines=", "q,quiet", "q,silent", "v,verbose", "z,zero-terminated", "f",
      "follow[", "F", "s,sleep-interval=", "retry", "pid="]
  let a ← amountOf t fs '+'
  let names := sourcesOf fs.operands
  let hasTitles := match fs.last? ["q", "v"] with
    | some key => key == "v"
    | none => names.length > 1
  return codeOf (← showParts t hasTitles a.lasts true names)

/-! ## 3. Other orders -/

/-- A text cut after each place of a mark, or before each. -/
def cutAt (mark : Chars) (isBefore : Bool) : Nat → Chars → Chars → List Chars
  | 0, current, cs => [current.reverse ++ cs]
  | _, current, [] => if current.isEmpty then [] else [current.reverse]
  | n + 1, current, c :: cs =>
    if mark.isPrefixOf (c :: cs) then
      let rest := (c :: cs).drop mark.length
      if isBefore then
        (if current.isEmpty then [] else [current.reverse]) ++
          cutAt mark isBefore n mark.reverse rest
      else (current.reverse ++ mark) :: cutAt mark isBefore n [] rest
    else cutAt mark isBefore n (c :: current) cs

/-- Writes each source with its lines in reverse. -/
def tac : Utility := fun t => do
  let fs ← flagsOf t 1 ["b,before", "r,regex", "s,separator="]
  let mark := (fs.value? "s").getD ['\n']
  let mark := if mark.isEmpty then ['\x00'] else mark
  let isFine ← forAll (fun name => do
    match ← content t name with
    | .ok text =>
      print t (cutAt mark (fs.has "b") (text.length + 1) [] text).reverse.flatten
      return true
    | .error .isDirectory =>
      complain t (Quoting.ifNeeded name ++ ": read error: Is a directory".toList)
      return false
    | .error e =>
      complain t ("failed to open ".toList ++ Quoting.quoted name ++ " for reading: ".toList ++
        e.reason.toList)
      return false) (sourcesOf fs.operands)
  return codeOf isFine

/-- Writes its lines, each with its characters in reverse. -/
def rev : Utility := fun t => do
  let fs ← flagsOf t 1 ["0,zero"]
  let isFine ← forAll (fun name => do
    match ← content t name with
    | .ok text =>
      print t ((linesOf text).flatMap fun line =>
        let body := withoutEnd line
        body.reverse ++ line.drop body.length)
      return true
    | .error e =>
      complain t ("cannot open ".toList ++ name ++ ": ".toList ++ e.reason.toList)
      return false) (sourcesOf fs.operands)
  return codeOf isFine

/-! ## 4. Numbers -/

/-- How lines are numbered. -/
structure Numbering where
  style : Chars := ['t']
  start : Int := 1
  step : Int := 1
  width : Nat := 6
  separator : Chars := ['\t']
  format : Chars := ['r', 'n']
  header : Chars := ['n']
  footer : Chars := ['n']
  restarts : Bool := true
  /-- How many empty lines count as one. -/
  group : Nat := 1

/-- A line number. -/
def Numbering.shown (s : Numbering) (n : Int) : Chars :=
  let ds := (toString n).toList
  match s.format with
  | ['l', 'n'] => leftAligned s.width ds
  | ['r', 'z'] =>
    let (sign, ds) := if n < 0 then (['-'], ds.drop 1) else ([], ds)
    sign ++ List.replicate (s.width - sign.length - ds.length) '0' ++ ds
  | _ => rightAligned s.width ds

/-- Numbers lines in the style of their section. -/
def numberedLines (s : Numbering) : (style : Chars) → (number : Int) → (empty : Nat) →
    List Chars → Chars
  | _, _, _, [] => []
  | style, number, empty, line :: lines =>
    let body := withoutEnd line
    let section? : Option Chars := match String.ofList body with
      | "\\:\\:\\:" => some s.header
      | "\\:\\:" => some s.style
      | "\\:" => some s.footer
      | _ => none
    match section? with
    | some style =>
      '\n' :: numberedLines s style (if s.restarts then s.start else number) 0 lines
    | none =>
      let empty := if body.isEmpty then empty + 1 else 0
      let counts := match style with
        | ['a'] => !body.isEmpty || empty % s.group = 0
        | ['t'] => !body.isEmpty
        | _ => false
      if counts then
        s.shown number ++ s.separator ++ body ++ '\n' ::
          numberedLines s style (number + s.step) empty lines
      else
        List.replicate (s.width + s.separator.length) ' ' ++ body ++ '\n' ::
          numberedLines s style number empty lines

/-- Writes its sources with the lines numbered. -/
def nl : Utility := fun t => do
  let fs ← flagsOf t 1 ["b,body-numbering=", "d,section-delimiter=", "f,footer-numbering=",
    "h,header-numbering=", "i,line-increment=", "l,join-blank-lines=", "n,number-format=",
    "p,no-renumber", "s,number-separator=", "v,starting-line-number=", "w,number-width="]
  let number (key : String) (otherwise : Int) : Int :=
    match fs.value? key with
    | some ('-' :: ds) => -(numberOf 10 ds : Int)
    | some ds => numberOf 10 ds
    | none => otherwise
  let wrongStyle (key what : String) : Step PUnit := do
    match fs.value? key with
    | some (c :: _) =>
      if !"atnp".toList.contains c then
        misuse t 1 ("invalid ".toList ++ what.toList ++ " numbering style: ".toList ++
          Quoting.plainly ((fs.value? key).getD []))
    | _ => pure ()
  wrongStyle "b" "body"
  wrongStyle "h" "header"
  wrongStyle "f" "footer"
  match fs.value? "n" with
  | some w =>
    if !(["ln", "rn", "rz"].contains (String.ofList w)) then
      misuse t 1 ("invalid line numbering format: ".toList ++ Quoting.plainly w)
  | none => pure ()
  match fs.value? "w" with
  | some w =>
    if !w.all isDecimal || numberOf 10 w = 0 then
      complain t ("invalid line number field width: ".toList ++ Quoting.plainly w)
      Step.exit 1
  | none => pure ()
  let s : Numbering := {
    style := (fs.value? "b").getD ['t']
    start := number "v" 1
    step := number "i" 1
    width := (number "w" 6).toNat
    separator := (fs.value? "s").getD ['\t']
    format := (fs.value? "n").getD ['r', 'n']
    header := (fs.value? "h").getD ['n']
    footer := (fs.value? "f").getD ['n']
    restarts := !fs.has "p"
    group := (number "l" 1).toNat }
  let read (name : Chars) : Step (Option Chars) := do
    match ← content t name with
    | .ok text => return some text
    | .error e =>
      complainNamed t name e
      return none
  let texts ← (sourcesOf fs.operands).mapM read
  let text := (texts.map (·.getD [])).flatten
  print t (numberedLines s s.style s.start 0 (linesOf text))
  return codeOf (texts.all (·.isSome))

/-! ## 5. Counts -/

/-- What is counted in a text. -/
structure Counts where
  lines : Nat := 0
  words : Nat := 0
  characters : Nat := 0
  bytes : Nat := 0
  longest : Nat := 0

/-- How wide a line is shown. -/
def shownWidth (line : Chars) : Nat :=
  line.foldl (fun n c =>
    if c == '\t' then n + 8 - n % 8 else if ' ' ≤ c && c ≤ '~' then n + 1 else n) 0

/-- The counts of a text. -/
def Counts.ofText (text : Chars) : Counts where
  lines := (text.filter (· == '\n')).length
  words := (runs isBlankChar text).length
  characters := text.length
  bytes := text.length
  longest := ((pieces (fun c => c == '\n' || c == '\r' || c == '\x0C') text).map shownWidth).foldl
    max 0

/-- Counts added up. -/
def Counts.plus (a b : Counts) : Counts :=
  ⟨a.lines + b.lines, a.words + b.words, a.characters + b.characters, a.bytes + b.bytes,
    max a.longest b.longest⟩

/-- A row of counts. -/
def countRow (shows : List (Counts → Nat)) (width : Nat) (c : Counts) (name : Chars) : Chars :=
  [' '].intercalate (shows.map fun f => rightAligned width (digits (f c))) ++
    (if name.isEmpty then [] else ' ' :: name) ++ ['\n']

/-- How many digits a number has. -/
def digitWidth (n : Nat) : Nat := (digits n).length

/-- What standard input or a file is connected to: its size if it is a file. -/
def sizeOf (t : Task) (name : Chars) : Step (Except OsError (Option Nat)) :=
  if name = ['-'] then
    match t.streams.lookup 0 with
    | none => return .error .badChannel
    | some k => Step.act fun w =>
      (.ok (match w.channel k with
        | .file names _ _ => some (w.contentAt names).length
        | _ => none), w)
  else do
    match ← Step.act (t.look true name) with
    | .ok (.file f) => return .ok (some f.content.length)
    | .ok _ => return .ok none
    | .error e => return .error e

/-- Counts the lines, words and bytes of its sources. -/
def wc : Utility := fun t => do
  let fs ← flagsOf t 1 ["c,bytes", "m,chars", "l,lines", "w,words", "L,max-line-length",
    "files0-from=", "total="]
  let kinds : List (String × (Counts → Nat)) := [("l", (·.lines)), ("w", (·.words)),
    ("m", (·.characters)), ("c", (·.bytes)), ("L", (·.longest))]
  let chosen := kinds.filter fun k => fs.has k.1
  let shows : List (Counts → Nat) := if chosen.isEmpty then [(·.lines), (·.words), (·.bytes)]
    else chosen.map (·.2)
  let names := sourcesOf fs.operands
  let sizes ← names.mapM (sizeOf t)
  let isFailed (s : Except OsError (Option Nat)) : Bool := match s with
    | .error _ => true
    | .ok _ => false
  let width :=
    if (names.length = 1 && shows.length = 1) || ((sizes.head?.map isFailed).getD true) then 1
    else
      let total := (sizes.filterMap fun s => s.toOption.join).foldl (· + ·) 0
      let least := if sizes.any fun s => match s with | .ok none => true | _ => false then 7 else 1
      max least (digitWidth total)
  let label (name : Chars) : Chars := if fs.operands.isEmpty then [] else name
  let one (name : Chars) : Step (Option Counts) := do
    match ← content t name with
    | .ok text =>
      let c := Counts.ofText text
      print t (countRow shows width c (label name))
      return some c
    | .error .isDirectory =>
      complainNamed t name .isDirectory
      print t (countRow shows width {} (label name))
      return none
    | .error e =>
      complainNamed t name e
      return none
  let counts ← names.mapM one
  if names.length > 1 then
    print t (countRow shows width ((counts.filterMap id).foldl Counts.plus {}) "total".toList)
  return codeOf (counts.all (·.isSome))

end LintRun.Utility

import LintRun.Machine.Utility.Basic
import LintRun.Text.Pieces

/-!
# Utilities that cut lines

Programs that take parts of lines, put lines next to each other, break long lines, and write
blanks as tabs or tabs as blanks.

* `Ranges.read` reads a list of numbers and ranges;
* `TabStops.next?` tells where a tab leads.
-/

namespace LintRun.Utility

/-! ## 1. Ranges of positions -/

/-- Positions from a first to a last one, which may be missing. -/
structure PositionRange where
  first : Nat
  last? : Option Nat
  deriving DecidableEq, Inhabited

namespace PositionRange

/-- Whether a position is in a range. -/
def has (r : PositionRange) (n : Nat) : Bool := r.first ≤ n && r.last?.all (n ≤ ·)

/-- Whether a range starts within another that comes before it. -/
def reaches (r s : PositionRange) : Bool := r.last?.all (s.first ≤ ·)

/-- Two ranges as one. -/
def joined (r s : PositionRange) : PositionRange :=
  ⟨r.first, match r.last?, s.last? with
    | some a, some b => some (max a b)
    | _, _ => none⟩

end PositionRange

/-- Ranges in ascending order, none of which starts within another. -/
abbrev Ranges := List PositionRange

namespace Ranges

/-- Why a list of ranges is refused. -/
inductive Fault
  | zero
  | twoDashes
  | noEndpoint
  | decreasing
  | tooLarge (text : Chars)
  | notANumber (text : Chars)

/-- The wording of a fault in a list of fields or of bytes. -/
def Fault.message (isFields : Bool) : Fault → Chars
  | .zero => (if isFields then "fields are numbered from 1"
      else "byte/character positions are numbered from 1").toList
  | .twoDashes => (if isFields then "invalid field range"
      else "invalid byte or character range").toList
  | .noEndpoint => "invalid range with no endpoint: -".toList
  | .decreasing => "invalid decreasing range".toList
  | .tooLarge text => (if isFields then "field number " else "byte/character offset ").toList ++
      Quoting.plainly text ++ " is too large".toList
  | .notANumber text => (if isFields then "invalid field value "
      else "invalid byte/character position ").toList ++ Quoting.plainly text

/-- The first number that is too large for a position. -/
def positionLimit : Nat := Nat.pow 2 64 - 1

/-- What was read of a range. -/
structure Partial where
  /-- The number before the dash, if there is a dash. -/
  before? : Option (Option Nat) := none
  number? : Option Nat := none

/-- The range that was read. -/
def Partial.close (p : Partial) : Except Fault PositionRange :=
  match p.before?, p.number? with
  | none, none => .error .zero
  | none, some n => if n = 0 then .error .zero else .ok ⟨n, some n⟩
  | some none, none => .error .noEndpoint
  | some first?, none => .ok ⟨first?.getD 1, none⟩
  | some first?, some n =>
    if n < first?.getD 1 then .error .decreasing else .ok ⟨first?.getD 1, some n⟩

/-- Reads ranges one character at a time. -/
def readFrom : Partial → Chars → Except Fault (List PositionRange)
  | p, [] => do return [← p.close]
  | p, c :: cs =>
    if c == '-' then
      if p.before?.isSome then .error .twoDashes
      else if p.number? = some 0 then .error .zero
      else readFrom { before? := some p.number? } cs
    else if c == ',' || c == ' ' || c == '\t' then do
      let r ← p.close
      return r :: (← readFrom {} cs)
    else if isDecimal c then
      let n := p.number?.getD 0 * 10 + numberOf 10 [c]
      if n ≥ positionLimit then .error (.tooLarge (c :: cs))
      else readFrom { p with number? := some n } cs
    else .error (.notANumber (c :: cs))

/-- Ranges in order, those that overlap made one. -/
def settle (rs : List PositionRange) : Ranges :=
  (rs.mergeSort fun a b => decide (a.first ≤ b.first)).foldr (fun r rest =>
    match rest with
    | s :: more => if r.reaches s then r.joined s :: more else r :: s :: more
    | [] => [r]) []

/-- The longest text of digits that a text starts with as it stands in a list, for messages. -/
def wholeNumber (list rest : Chars) : Chars :=
  let before := list.take (list.length - rest.length)
  (before.reverse.takeWhile isDecimal).reverse ++ rest.takeWhile isDecimal

/-- The ranges that a text lists. -/
def read (list : Chars) : Except Fault Ranges :=
  match readFrom {} list with
  | .ok rs => .ok (settle rs)
  | .error (.tooLarge rest) => .error (.tooLarge (wholeNumber list rest))
  | .error e => .error e

/-- Whether a position is in one of some ranges. -/
def has (rs : Ranges) (n : Nat) : Bool := rs.any (·.has n)

/-- The ranges of the positions that are not in others. -/
def complement (rs : Ranges) : Ranges :=
  go 1 rs
where
  go (next : Nat) : Ranges → Ranges
    | [] => [⟨next, none⟩]
    | r :: rs =>
      let before : Ranges := if next < r.first then [⟨next, some (r.first - 1)⟩] else []
      match r.last? with
      | none => before
      | some last => before ++ go (last + 1) rs

/-- The characters at some positions, in groups that belong to one range. -/
def groupsOf (rs : Ranges) (line : Chars) : List Chars :=
  (rs.map fun r =>
    let rest := line.drop (r.first - 1)
    match r.last? with
    | some last => rest.take (last + 1 - r.first)
    | none => rest).filter (!·.isEmpty)

end Ranges

/-! ## 2. Parts of lines -/

/-- How the parts of a line are found. -/
structure CutStyle where
  ranges : Ranges
  /-- What is between fields; bytes are cut if it is missing. -/
  delimiter? : Option Char
  /-- What is written between parts. -/
  joint : Chars
  /-- Whether lines without delimiters are left out. -/
  dropsWhole : Bool

/-- The parts of a line that are wanted, if any of it is. -/
def CutStyle.parts? (s : CutStyle) (line : Chars) : Option Chars :=
  match s.delimiter? with
  | none => some (s.joint.intercalate (s.ranges.groupsOf line))
  | some d =>
    let fields := pieces (· == d) line
    if fields.length ≤ 1 then if s.dropsWhole then none else some line
    else
      some (s.joint.intercalate ((fields.mapIdx fun k f => (k + 1, f)).filterMap fun (k, f) =>
        if s.ranges.has k then some f else none))

/-- The lines of a text that end with some character, without their ends. -/
def rowsEndingIn (mark : Char) (text : Chars) : List Chars :=
  let parts := pieces (· == mark) text
  if parts.getLast? = some [] then parts.dropLast else parts

/-- What ends a line. -/
def lineEnd (fs : Flags) : Char := if fs.has "z" then '\x00' else '\n'

/-- Writes parts of the lines of its sources. -/
def cut : Utility := fun t => do
  let fs ← flagsOf t 1 ["b,bytes=", "c,characters=", "d,delimiter=", "f,fields=", "n",
    "s,only-delimited",
    "z,zero-terminated", "complement", "output-delimiter="]
  let lists := ["b", "c", "f"].flatMap fs.values
  if lists.length > 1 then misuse t 1 "only one list may be specified".toList
  if ((fs.values "d").any fun d => decide (d.length > 1)) then
    misuse t 1 "the delimiter must be a single character".toList
  if lists.isEmpty then
    misuse t 1 "you must specify a list of bytes, characters, or fields".toList
  let isFields := fs.has "f"
  if !isFields && fs.has "d" then
    misuse t 1 "an input delimiter may be specified only when operating on fields".toList
  if !isFields && fs.has "s" then
    misuse t 1 "suppressing non-delimited lines makes sense\n\tonly when operating on fields".toList
  match Ranges.read (lists.headD []) with
  | .error e => misuse t 1 (e.message isFields)
  | .ok ranges =>
    let orNul (cs : Chars) : Chars := if cs.isEmpty then ['\x00'] else cs
    let delimiter := (orNul ((fs.value? "d").getD ['\t'])).headD '\t'
    let s : CutStyle := {
      ranges := if fs.has "complement" then ranges.complement else ranges
      delimiter? := if isFields then some delimiter else none
      joint := match fs.value? "output-delimiter" with
        | some d => orNul d
        | none => if isFields then [delimiter] else []
      dropsWhole := fs.has "s" }
    return codeOf (← overSources t fs.operands fun _ text => do
      for row in rowsEndingIn (lineEnd fs) text do
        match s.parts? row with
        | some parts => print t (parts ++ [lineEnd fs])
        | none => pure ())

/-! ## 3. Lines next to each other -/

/-- The texts that a list of delimiters stands for, unless a backslash stands alone at its end. -/
def delimiters? : Chars → Option (List Chars)
  | [] => some []
  | ['\\'] => none
  | '\\' :: c :: cs =>
    let text : Chars := match c with
      | '0' => []
      | 'b' => ['\x08']
      | 'f' => ['\x0C']
      | 'n' => ['\n']
      | 'r' => ['\r']
      | 't' => ['\t']
      | 'v' => ['\x0B']
      | c => [c]
    (delimiters? cs).map (text :: ·)
  | c :: cs => (delimiters? cs).map ([c] :: ·)

/-- Texts with others between them, which are taken in turn. -/
def joinedInTurn (between : List Chars) : Nat → List Chars → Chars
  | _, [] => []
  | _, [x] => x
  | k, x :: xs => x ++ between.getD (k % between.length) [] ++ joinedInTurn between (k + 1) xs

/-- Where the lines of a source come from: its content, or standard input for a dash. -/
def dashTurns (names : List Chars) (rows : List Chars) : List (List Chars) :=
  let dashes := (names.filter (· == ['-'])).length
  (List.range dashes).map fun k =>
    (rows.mapIdx fun n r => (n, r)).filterMap fun (n, r) => if n % dashes = k then some r else none

/-- The rows of some sources; dashes share the rows of standard input in turn. -/
def rowsOfSources (mark : Char) (inTurn : Bool) (t : Task) (names : List Chars) :
    Step (List (List Chars) × Bool) := do
  let input ← if names.contains ['-'] then content t ['-'] else pure (.ok [])
  let inputRows := rowsEndingIn mark (input.toOption.getD [])
  let turns := if inTurn then dashTurns names inputRows
    else inputRows :: List.replicate names.length []
  go turns names
where
  go (turns : List (List Chars)) : List Chars → Step (List (List Chars) × Bool)
    | [] => return ([], true)
    | name :: names => do
      if name = ['-'] then
        let (rest, isFine) ← go (turns.drop 1) names
        return (turns.headD [] :: rest, isFine)
      else
        match ← content t name with
        | .ok text =>
          let (rest, isFine) ← go turns names
          return (rowsEndingIn mark text :: rest, isFine)
        | .error e =>
          complainNamed t name e
          if inTurn && e != .isDirectory then Step.exit 1
          let (rest, _) ← go turns names
          return (rest, false)

/-- Writes the lines of its sources next to each other, or each source in one line. -/
def paste : Utility := fun t => do
  let fs ← flagsOf t 1 ["d,delimiters=", "s,serial", "z,zero-terminated"]
  let list := match fs.value? "d" with
    | some [] => ['\\', '0']
    | some d => d
    | none => ['\t']
  match delimiters? list with
  | none =>
    complain t ("delimiter list ends with an unescaped backslash: ".toList ++ list)
    return 1
  | some between =>
    let mark := lineEnd fs
    let (columns, isFine) ←
      rowsOfSources mark (!fs.has "s") t (sourcesOf fs.operands)
    if fs.has "s" then
      for rows in columns do print t (joinedInTurn between 0 rows ++ [mark])
    else
      let height := (columns.map (·.length)).foldl max 0
      for k in List.range height do
        print t (joinedInTurn between 0 (columns.map fun rows => rows.getD k []) ++ [mark])
    return codeOf isFine

/-! ## 4. Long lines -/

/-- How long lines are broken. -/
structure FoldStyle where
  width : Nat
  inBytes : Bool
  atBlanks : Bool

/-- The column after a character. -/
def FoldStyle.column (s : FoldStyle) (n : Nat) (c : Char) : Nat :=
  if s.inBytes then n + 1
  else
    match c with
    | '\x08' => n - 1
    | '\r' => 0
    | '\t' => n + 8 - n % 8
    | _ => n + 1

/-- Whether a character is a blank within a line. -/
def isInnerBlank (c : Char) : Bool := c == ' ' || c == '\t'

/-- The lines that are complete when a character comes after the ones of a current line (latest
first), and the current line then.  What follows the last blank may move on, so this takes up to
three rounds. -/
def FoldStyle.place (s : FoldStyle) : Nat → Chars → Char → Chars × Chars
  | 0, current, c => ([], c :: current)
  | rounds + 1, current, c =>
    let columns := current.reverse.foldl s.column 0
    if s.column columns c ≤ s.width then ([], c :: current)
    else
      let tail := current.takeWhile (!isInnerBlank ·)
      if s.atBlanks && tail.length < current.length then
        let (text, next) := s.place rounds tail c
        ((current.drop tail.length).reverse ++ '\n' :: text, next)
      else if current.isEmpty then ([], [c])
      else
        let (text, next) := s.place rounds [] c
        (current.reverse ++ '\n' :: text, next)

/-- A text with its long lines broken. -/
def FoldStyle.broken (s : FoldStyle) : Chars → Chars → Chars
  | current, [] => current.reverse
  | current, '\n' :: cs => current.reverse ++ '\n' :: s.broken [] cs
  | current, c :: cs =>
    let (text, current) := s.place 4 current c
    text ++ s.broken current cs

/-- Flags that are numbers after a dash, as values of another flag. -/
def numberFlags (letter : Char) (args : List Chars) : List Chars :=
  args.map fun w =>
    match w with
    | '-' :: d :: ds => if isDecimal d then '-' :: letter :: d :: ds else w
    | _ => w

/-- Writes its sources with long lines broken. -/
def fold : Utility := fun t => do
  let fs ← flagsOf { t with arguments := numberFlags 'w' t.arguments } 1
    ["b,bytes", "s,spaces", "w,width="]
  let width := (fs.value? "w").getD ['8', '0']
  if !width.all isDecimal || width.isEmpty || numberOf 10 width = 0 then
    let isNumber := width.all isDecimal && !width.isEmpty
    complain t ("invalid number of columns: ".toList ++ Quoting.plainly width ++
      (if isNumber then ": Numerical result out of range" else "").toList)
    Step.exit 1
  let s : FoldStyle :=
    { width := numberOf 10 width, inBytes := fs.has "b", atBlanks := fs.has "s" }
  return codeOf (← overSources t fs.operands fun _ text => print t (s.broken [] text))

/-! ## 5. Tabs -/

/-- Where tabs lead. -/
structure TabStops where
  /-- The stops that are listed. -/
  listed : List Nat := []
  /-- After the listed stops, a stop at each multiple of this. -/
  multiple? : Option Nat := none
  /-- After the listed stops, a stop each time so many columns after the last one. -/
  step? : Option Nat := none
  deriving Inhabited

/-- The stop after a column, if there is one. -/
def TabStops.next? (s : TabStops) (column : Nat) : Option Nat :=
  match s.listed, s.multiple?, s.step? with
  | [], none, none => some (column + 8 - column % 8)
  | [n], none, none => some (column + n - column % n)
  | listed, multiple?, step? =>
    match listed.find? (column < ·), multiple?, step? with
    | some stop, _, _ => some stop
    | none, some n, _ => some (column + n - column % n)
    | none, none, some n => some (column + n - (column - listed.getLastD 0) % n)
    | none, none, none => none

/-- The stops that a text lists, or what is wrong with it. -/
def TabStops.read (list : Chars) : Except Chars TabStops :=
  (pieces (fun c => c == ',' || c == ' ' || c == '\t') list).foldlM (fun s w =>
    let number (ds : Chars) : Except Chars Nat :=
      if !ds.all isDecimal then
        .error ("tab size contains invalid character(s): ".toList ++
          Quoting.plainly (ds.dropWhile isDecimal))
      else if numberOf 10 ds = 0 then .error "tab size cannot be 0".toList
      else .ok (numberOf 10 ds)
    match w with
    | [] => .ok s
    | '/' :: ds => do return { s with multiple? := some (← number ds) }
    | '+' :: ds => do return { s with step? := some (← number ds) }
    | ds => do
      let n ← number ds
      if s.listed.getLastD 0 ≥ n then .error "tab sizes must be ascending".toList
      else return { s with listed := s.listed ++ [n] }) {}

/-- The stops that flags ask for. -/
def tabStops (t : Task) (fs : Flags) : Step TabStops := do
  match TabStops.read ([','].intercalate (fs.values "t")) with
  | .ok s => return s
  | .error message =>
    complain t message
    Step.exit 1

/-- A line with blanks for tabs, up to its first other character or all along. -/
def withoutTabs (s : TabStops) (isWhole : Bool) : (column : Nat) → Chars → Chars
  | _, [] => []
  | column, c :: cs =>
    let goesOn := isWhole || isInnerBlank c
    if c == '\t' then
      let next := (s.next? column).getD (column + 1)
      List.replicate (max next (column + 1) - column) ' ' ++
        withoutTabs s isWhole (max next (column + 1)) cs
    else if goesOn then
      c :: withoutTabs s isWhole (if c == '\x08' then column - 1 else column + 1) cs
    else c :: cs

/-- Writes its sources with blanks for tabs. -/
def expand : Utility := fun t => do
  let fs ← flagsOf { t with arguments := numberFlags 't' t.arguments } 1 ["i,initial", "t,tabs="]
  let s ← tabStops t fs
  return codeOf (← overSources t fs.operands fun _ text =>
    print t ((linesOf text).flatMap (withoutTabs s (!fs.has "i") 0)))

/-- What is known about the blanks before a place of a line. -/
structure BlankRun where
  column : Nat := 0
  /-- Blanks that may still become a tab. -/
  pending : Chars := []
  wasBlank : Bool := true
  /-- Whether there was one blank just before a stop. -/
  isOneBefore : Bool := false

/-- The pending blanks as they are written. -/
def BlankRun.flushed (r : BlankRun) : Chars :=
  if r.pending.length > 1 && r.isOneBefore then '\t' :: r.pending.drop 1 else r.pending

/-- A line with tabs for blanks, up to its first other character or all along. -/
def withTabs (s : TabStops) (isWhole : Bool) : BlankRun → Chars → Chars
  | r, [] => r.flushed
  | r, c :: cs =>
    if isInnerBlank c then
      match s.next? r.column with
      | none => r.flushed ++ c :: cs
      | some next =>
        if c == '\t' then
          let kept : Chars := if r.isOneBefore then ['\t'] else []
          kept ++ '\t' :: withTabs s isWhole { column := next } cs
        else if r.wasBlank && r.column + 1 = next then
          let kept : Chars := if r.isOneBefore then ['\t'] else []
          kept ++ '\t' :: withTabs s isWhole { column := next } cs
        else
          withTabs s isWhole {
            column := r.column + 1
            pending := r.pending ++ [c]
            wasBlank := true
            isOneBefore := r.isOneBefore || r.column + 1 == next } cs
    else
      let column := if c == '\x08' then r.column - 1 else r.column + 1
      let rest := if isWhole then withTabs s isWhole { column, wasBlank := false } cs else cs
      r.flushed ++ c :: rest

/-- Writes its sources with tabs for blanks. -/
def unexpand : Utility := fun t => do
  let fs ← flagsOf { t with arguments := numberFlags 't' t.arguments } 1
    ["a,all", "first-only", "t,tabs="]
  let s ← tabStops t fs
  let isWhole := (fs.has "a" || fs.has "t") && !fs.has "first-only"
  return codeOf (← overSources t fs.operands fun _ text =>
    print t ((linesOf text).flatMap (withTabs s isWhole {})))

end LintRun.Utility

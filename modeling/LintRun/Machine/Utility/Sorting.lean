import LintRun.Machine.Utility.Comparing
import LintRun.Machine.Utility.Cutting

/-!
# Utilities for sorted lines

Programs that sort lines, and programs that expect sorted lines: they leave out repeated lines,
compare two sources or join them.
-/

namespace LintRun.Utility

/-! ## 1. Sorting -/

/-- Reads a count that a key starts with. -/
def keyCount (what text : Chars) : Except Chars (Nat × Chars) :=
  let ds := text.takeWhile isDecimal
  if ds.isEmpty then
    .error (what ++ ": invalid count at start of ".toList ++ Quoting.plainly text)
  else .ok (min (numberOf 10 ds) (Nat.pow 2 63), text.drop ds.length)

/-- The letters by which lines can be compared. -/
def styleLetters : Chars := "bdfghiMnRrV".toList

/-- Adds letters to the style of a key; `b` is about its start or its end. -/
def KeyStyle.withLetters (s : KeyStyle) (atStart atEnd : Bool) (letters : Chars) : KeyStyle :=
  letters.foldl (fun s c =>
    if c == 'b' then
      { s with skipsStart := s.skipsStart || atStart, skipsEnd := s.skipsEnd || atEnd }
    else if s.has c then s else { s with letters := s.letters ++ [c] }) s

/-- The key that a text writes. -/
def SortKey.read (text : Chars) : Except Chars SortKey := do
  let bad {α : Type} (what : String) : Except Chars α :=
    .error (what.toList ++ ": invalid field specification ".toList ++ Quoting.plainly text)
  let letters (cs : Chars) : Chars := cs.takeWhile (styleLetters.contains ·)
  let (field, rest) ← keyCount "invalid number at field start".toList text
  if field = 0 then bad "field number is zero"
  let (character, rest) ← match rest with
    | '.' :: cs =>
      let (n, rest) ← keyCount "invalid number after '.'".toList cs
      if n = 0 then bad "character offset is zero"
      pure (n - 1, rest)
    | cs => pure (0, cs)
  let style := ({} : KeyStyle).withLetters true false (letters rest)
  let k : SortKey := { start := ⟨field - 1, character⟩, style }
  match rest.drop (letters rest).length with
  | [] => return k
  | ',' :: cs =>
    let (field, rest) ← keyCount "invalid number after ','".toList cs
    if field = 0 then bad "field number is zero"
    let (character, rest) ← match rest with
      | '.' :: cs => keyCount "invalid number after '.'".toList cs
      | cs => pure (0, cs)
    let style := style.withLetters false true (letters rest)
    if !(rest.drop (letters rest).length).isEmpty then
      bad "stray character in field spec"
    return { k with stop? := some ⟨field - 1, character⟩, style }
  | _ => bad "stray character in field spec"

/-- The rows without those that compare equal to the one before them. -/
def withoutRepeats (o : LineOrder) : List Chars → List Chars
  | a :: b :: rows =>
    if o.compare a b = .eq then withoutRepeats o (a :: rows) else a :: withoutRepeats o (b :: rows)
  | rows => rows
termination_by rows => rows.length

/-- The first row that is out of order, with its number. -/
def firstDisorder? (o : LineOrder) (isStrict : Bool) : Nat → List Chars → Option (Nat × Chars)
  | n, a :: b :: rows =>
    let r := o.compare a b
    if r = .gt || (isStrict && r = .eq) then some (n + 1, b)
    else firstDisorder? o isStrict (n + 1) (b :: rows)
  | _, _ => none

/-- The order that flags ask for. -/
def lineOrder (t : Task) (fs : Flags) : Step LineOrder := do
  let fail {α : Type} (message : Chars) : Step α := do
    complain t message
    Step.exit 2
  let common : KeyStyle := ({} : KeyStyle).withLetters true true <|
    styleLetters.filter fun c => fs.has (String.singleton c)
  let read (text : Chars) : Step SortKey := do
    match SortKey.read text with
    | .ok k => return if k.style.isPlain && !k.style.has 'r' then { k with style := common } else k
    | .error message => fail message
  let keys ← (fs.values "k").mapM read
  let tabs ← (fs.values "t").mapM fun w => do
    match w with
    | [] => fail "empty tab".toList
    | [c] => return c
    | ['\\', '0'] => return '\x00'
    | w => fail ("multi-character tab ".toList ++ Quoting.plainly w)
  if tabs.eraseDups.length > 1 then fail "incompatible tabs".toList
  let keys := if keys.isEmpty && !common.isPlain then [{ style := common }] else keys
  match keys.findSome? (·.style.conflict?) with
  | some letters => fail ("options '-".toList ++ letters ++ "' are incompatible".toList)
  | none =>
    return {
      keys
      tab? := tabs.head?
      isReverse := common.has 'r'
      isStable := fs.has "s" || fs.has "u" }

/-- Complains that a source cannot be read, and ends. -/
def unsortable {α : Type} (t : Task) (name : Chars) (e : OsError) : Step α := do
  let what := match e with
    | .isDirectory => "read failed: "
    | _ => "cannot read: "
  complain t (what.toList ++ Quoting.ifNeeded name ++ ": ".toList ++ e.reason.toList)
  Step.exit 2

/-- The words that a flag of a utility allows, as messages list them. -/
def validWords (t : Task) (flag : String) (given : Chars) (words : List String) : Step PUnit := do
  if !words.contains (String.ofList given) then
    complain t ("invalid argument ".toList ++ Quoting.plainly given ++ " for ".toList ++
      Quoting.plainly ("--" ++ flag).toList)
    Step.act (t.put 2 ("Valid arguments are:\n" ++ String.join (words.map fun w =>
      "  - '" ++ w ++ "'\n")).toList)
    Step.act (t.put 2 ("Try '".toList ++ t.title ++ " --help' for more information.\n".toList))
    Step.exit 1

/-- Checks whether a source is in order. -/
def checkOrder (t : Task) (fs : Flags) (o : LineOrder) (isQuiet : Bool) : Step Nat := do
  let fail {α : Type} (message : Chars) : Step α := do
    complain t message
    Step.exit 2
  match (sourcesOf fs.operands) with
  | name :: more =>
    match more with
    | extra :: _ =>
      fail ("extra operand ".toList ++ Quoting.plainly extra ++ " not allowed with -".toList ++
        (if isQuiet then ['C'] else ['c']))
    | [] =>
      match ← content t name with
      | .error .isDirectory => unsortable t name .isDirectory
      | .error e =>
        fail ("open failed: ".toList ++ Quoting.ifNeeded name ++ ": ".toList ++ e.reason.toList)
      | .ok text =>
        match firstDisorder? o (fs.has "u") 1 (rowsEndingIn (lineEnd fs) text) with
        | none => return 0
        | some (n, row) =>
          if !isQuiet then
            complain t (Quoting.ifNeeded name ++ ':' :: digits n ++ ": disorder: ".toList ++ row)
          return 1
  | [] => return 0

/-- Writes the lines of its sources in order. -/
def sort : Utility := fun t => do
  let fs ← flagsOf t 2 ["b,ignore-leading-blanks", "d,dictionary-order", "f,ignore-case",
    "g,general-numeric-sort", "h,human-numeric-sort", "i,ignore-nonprinting", "M,month-sort",
    "n,numeric-sort", "R,random-sort", "r,reverse", "V,version-sort", "c", "check[", "C", "k,key=",
    "m,merge", "o,output=", "s,stable", "S,buffer-size=", "t,field-separator=",
    "T,temporary-directory=", "u,unique", "z,zero-terminated", "parallel=", "batch-size="]
  let o ← lineOrder t fs
  let kind? := fs.value? "check"
  match kind? with
  | some w =>
    if !w.isEmpty then validWords t "check" w ["quiet", "silent", "diagnose-first"]
  | none => pure ()
  let isQuietCheck := ["quiet", "silent"].any fun w => kind? = some w.toList
  let isLoud := fs.has "c" || (kind?.isSome && !isQuietCheck)
  if isLoud && (fs.has "C" || isQuietCheck) then
    complain t "options '-cC' are incompatible".toList
    Step.exit 2
  if isLoud || fs.has "C" || isQuietCheck then checkOrder t fs o (!isLoud)
  else
    let read (name : Chars) : Step Chars := do
      match ← content t name with
      | .ok text => return text
      | .error e => unsortable t name e
    let texts ← (sourcesOf fs.operands).mapM read
    let mark := lineEnd fs
    let rows := o.sort (texts.flatMap (rowsEndingIn mark))
    let rows := if fs.has "u" then withoutRepeats o rows else rows
    let out := rows.flatMap (· ++ [mark])
    match fs.value? "o" with
    | none => print t out
    | some file =>
      match ← Step.act (t.writeFile .write file out) with
      | .ok _ => pure ()
      | .error e =>
        complain t ("open failed: ".toList ++ Quoting.ifNeeded file ++ ": ".toList ++
          e.reason.toList)
        Step.exit 2
    return 0

/-! ## 2. Repeated lines -/

/-- Flags of older times: fields after a dash, characters after a plus sign. -/
def oldSkips (args : List Chars) : List Chars :=
  args.map fun w =>
    match w with
    | '-' :: d :: ds => if (d :: ds).all isDecimal then '-' :: 'f' :: d :: ds else w
    | _ => w

/-- Rows in groups of neighbours that are equal by some part of them. -/
def rowGroups (same : Chars → Chars → Bool) (rows : List Chars) : List (List Chars) :=
  rows.foldr (fun r groups =>
    match groups with
    | (s :: g) :: more => if same r s then (r :: s :: g) :: more else [r] :: (s :: g) :: more
    | groups => [r] :: groups) []

/-- How groups of repeated lines are written. -/
structure RepeatStyle where
  isCounting : Bool
  showsSingle : Bool
  showsRepeated : Bool
  /-- Whether all lines of a group are written. -/
  showsAll : Bool

/-- The lines that are written for a group. -/
def RepeatStyle.shown (s : RepeatStyle) (g : List Chars) : List Chars :=
  let wanted := if g.length = 1 then s.showsSingle else s.showsRepeated
  if !wanted then []
  else if s.showsAll then g
  else
    let count := if s.isCounting then rightAligned 7 (digits g.length) ++ [' '] else []
    (g.take 1).map (count ++ ·)

/-- Writes its input without repeated lines, or only some of its lines. -/
def uniq : Utility := fun t => do
  let fs ← flagsOf { t with arguments := oldSkips t.arguments } 1
    ["c,count", "d,repeated", "D", "all-repeated[", "f,skip-fields=", "group[", "i,ignore-case",
      "s,skip-chars=", "u,unique", "z,zero-terminated", "w,check-chars="]
  let number (key what : String) : Step (Option Nat) := do
    match fs.value? key with
    | none => return none
    | some w =>
      if w.isEmpty || !w.all isDecimal then
        complain t (w ++ ": invalid number of ".toList ++ what.toList)
        Step.exit 1
      return some (numberOf 10 w)
  let fields := (← number "f" "fields to skip").getD 0
  let characters := (← number "s" "bytes to skip").getD 0
  let width? ← number "w" "bytes to compare"
  match fs.operands[2]? with
  | some w => extraOperand t 1 w
  | none => pure ()
  let orElse (w? : Option Chars) (usual : String) : Option Chars :=
    w?.map fun w => if w.isEmpty then usual.toList else w
  let all? := orElse ((fs.value? "all-repeated").or (if fs.has "D" then some [] else none)) "none"
  let group? := orElse (fs.value? "group") "separate"
  match all? with
  | some w => validWords t "all-repeated" w ["none", "prepend", "separate"]
  | none => pure ()
  match group? with
  | some w => validWords t "group" w ["prepend", "append", "separate", "both"]
  | none => pure ()
  if group?.isSome && (all?.isSome || ["c", "d", "u"].any fs.has) then
    misuse t 1 "--group is mutually exclusive with -c/-d/-D/-u".toList
  if all?.isSome && fs.has "c" then
    misuse t 1 "printing all duplicated lines and repeat counts is meaningless".toList
  let input := (sourcesOf fs.operands).headD ['-']
  let text ← match ← content t input with
    | .ok text => pure text
    | .error e =>
      if e = .isDirectory then
        complain t ("error reading ".toList ++ Quoting.quoted input ++ ": ".toList ++
          e.reason.toList)
      else complainNamed t input e
      Step.exit 1
  let mark := lineEnd fs
  let compared (row : Chars) : Chars :=
    let rest := (afterFields none false fields row).drop characters
    let rest := match width? with
      | some n => rest.take n
      | none => rest
    if fs.has "i" then rest.map Char.toUpper else rest
  let groups := rowGroups (fun a b => compared a == compared b) (rowsEndingIn mark text)
  let s : RepeatStyle := {
    isCounting := fs.has "c"
    showsSingle := !fs.has "d" && all?.isNone
    showsRepeated := !fs.has "u" || all?.isSome
    showsAll := all?.isSome || group?.isSome }
  let shown := (groups.map s.shown).filter (!·.isEmpty)
  let blocks := shown.map fun g => g.flatMap (· ++ [mark])
  let has (kinds : List String) : Bool :=
    kinds.any fun k => (group?.or all?) = some k.toList
  let before := if has ["prepend", "both"] && !blocks.isEmpty then [mark] else []
  let after := if has ["append", "both"] && !blocks.isEmpty then [mark] else []
  let between := if has ["prepend", "append", "separate", "both"] then [mark] else []
  let out := before ++ between.intercalate blocks ++ after
  match fs.operands[1]? with
  | none | some ['-'] => print t out
  | some file =>
    match ← Step.act (t.writeFile .write file out) with
    | .ok _ => pure ()
    | .error e =>
      complainNamed t file e
      Step.exit 1
  return 0

/-! ## 3. Two sorted sources -/

/-- The contents of two sources. -/
def twoSources (t : Task) (fs : Flags) : Step (Chars × Chars) := do
  match fs.operands with
  | [a, b] =>
    let read (name : Chars) : Step Chars := do
      match ← content t name with
      | .ok text => return text
      | .error e =>
        complainNamed t name e
        Step.exit 1
    return (← read a, ← read b)
  | [] => missingOperand t 1
  | [a] => misuse t 1 ("missing operand after ".toList ++ Quoting.plainly a)
  | _ :: _ :: c :: _ => extraOperand t 1 c

/-- Whether and when two sources are found to be out of order. -/
inductive OrderCheck
  | never
  | whenUnpaired
  | always
  deriving DecidableEq

/-- What comparing two sources has come to. -/
structure Comparison where
  check : OrderCheck
  isUnpaired : Bool := false
  isDisordered : Bool × Bool := (false, false)
  counts : Nat × Nat × Nat := (0, 0, 0)

/-- The message about a source that is out of order where one row follows another; `true` if it is
the last thing that is done. -/
def disorderIn (t : Task) (second : Bool) (k : Comparison) (a b? : Option Chars) :
    Step Comparison := do
  let isNew := if second then !k.isDisordered.2 else !k.isDisordered.1
  let isChecked := k.check = .always || (k.check = .whenUnpaired && k.isUnpaired)
  match a, b? with
  | some a, some b =>
    if isChecked && isNew && compareBytes a b = .gt then
      complain t ("file ".toList ++ (if second then ['2'] else ['1']) ++
        " is not in sorted order".toList)
      if k.check = .always then Step.exit 1
      return { k with
        isDisordered := if second then (k.isDisordered.1, true) else (true, k.isDisordered.2) }
    else return k
  | _, _ => return k

/-- Writes the rows of two sources in three columns. -/
def threeColumns (t : Task) (put : Nat → Chars → Step PUnit) :
    Nat → Comparison → List Chars → List Chars → Step Comparison
  | 0, k, _, _ => return k
  | n + 1, k, as, bs => do
    let plus (k : Comparison) (c : Nat × Nat × Nat) : Comparison :=
      { k with counts := (k.counts.1 + c.1, k.counts.2.1 + c.2.1, k.counts.2.2 + c.2.2) }
    let order := match as, bs with
      | [], _ => Ordering.gt
      | _, [] => Ordering.lt
      | a :: _, b :: _ => compareBytes a b
    match as, bs with
    | [], [] => return k
    | _, _ =>
      let k := if order = .eq then plus k (0, 0, 1)
        else { plus k (if order = .lt then (1, 0, 0) else (0, 1, 0)) with isUnpaired := true }
      match order with
      | .eq => put 3 (as.headD [])
      | .lt => put 1 (as.headD [])
      | .gt => put 2 (bs.headD [])
      let k ← if order != .gt then disorderIn t false k as.head? as[1]? else pure k
      let k ← if order != .lt then disorderIn t true k bs.head? bs[1]? else pure k
      threeColumns t put n k (if order = .gt then as else as.drop 1)
        (if order = .lt then bs else bs.drop 1)

/-- Tells which lines two sorted sources have alone and which in common. -/
def comm : Utility := fun t => do
  let fs ← flagsOf t 1 ["1", "2", "3", "check-order", "nocheck-order", "output-delimiter=", "total",
    "z,zero-terminated"]
  let (a, b) ← twoSources t fs
  let mark := lineEnd fs
  let joint := match fs.value? "output-delimiter" with
    | some [] => ['\x00']
    | some d => d
    | none => ['\t']
  let put (column : Nat) (row : Chars) : Step PUnit := do
    if !fs.has (toString column) then
      let margin := (List.range (column - 1)).filter fun k => !fs.has (toString (k + 1))
      print t (margin.flatMap (fun _ => joint) ++ row ++ [mark])
  let check := match fs.last? ["check-order", "nocheck-order"] with
    | some "check-order" => OrderCheck.always
    | some _ => .never
    | none => .whenUnpaired
  let (as, bs) := (rowsEndingIn mark a, rowsEndingIn mark b)
  let k ← threeColumns t put (as.length + bs.length + 1) { check } as bs
  if fs.has "total" then
    print t (joint.intercalate [digits k.counts.1, digits k.counts.2.1, digits k.counts.2.2,
      "total".toList] ++ [mark])
  if k.isDisordered.1 || k.isDisordered.2 then
    complain t "input is not in sorted order".toList
    return 1
  return 0

/-- What a joined line is made of. -/
inductive JoinField
  | key
  | ofFirst (field : Nat)
  | ofSecond (field : Nat)
  deriving DecidableEq

/-- How lines of two sources are joined. -/
structure JoinStyle where
  tab? : Option Char
  fields : Nat × Nat
  isCaseless : Bool
  missing : Chars
  format? : Option (List JoinField)

/-- The fields of a row. -/
def JoinStyle.split (s : JoinStyle) (row : Chars) : List Chars :=
  match s.tab? with
  | some tab => pieces (· == tab) row
  | none => runs isWordGap row

/-- The field by which a row is joined. -/
def JoinStyle.keyOf (s : JoinStyle) (second : Bool) (row : List Chars) : Chars :=
  row.getD ((if second then s.fields.2 else s.fields.1) - 1) []

/-- A joined line; a row may be missing. -/
def JoinStyle.shown (s : JoinStyle) (a? b? : Option (List Chars)) : Chars :=
  let joint := s.tab?.getD ' '
  let orMissing (f : Option Chars) : Chars :=
    match f with
    | some [] | none => s.missing
    | some f => f
  let key := match a?, b? with
    | some a, _ => s.keyOf false a
    | none, some b => s.keyOf true b
    | none, none => []
  let rest (second : Bool) (row? : Option (List Chars)) : List Chars :=
    let n := if second then s.fields.2 else s.fields.1
    (row?.getD []).eraseIdx (n - 1) |>.map fun f => orMissing (some f)
  let parts := match s.format? with
    | some fields => fields.map fun f =>
      match f with
      | .key => orMissing (some key)
      | .ofFirst n => orMissing (a?.bind (·[n - 1]?))
      | .ofSecond n => orMissing (b?.bind (·[n - 1]?))
    | none => orMissing (some key) :: rest false a? ++ rest true b?
  [joint].intercalate parts ++ ['\n']

/-- The fields that a format lists. -/
def joinFields (t : Task) (text : Chars) : Step (List JoinField) :=
  (runs (fun c => c == ',' || c == ' ' || c == '\t') text).mapM fun w => do
    let number (ds : Chars) : Step Nat := do
      if ds.isEmpty || !ds.all isDecimal || numberOf 10 ds = 0 then
        complain t ("invalid field number: ".toList ++ Quoting.plainly ds)
        Step.exit 1
      return numberOf 10 ds
    match w with
    | ['0'] => return .key
    | '1' :: '.' :: ds => return .ofFirst (← number ds)
    | '2' :: '.' :: ds => return .ofSecond (← number ds)
    | _ =>
      complain t ("invalid field specifier: ".toList ++ Quoting.plainly w)
      Step.exit 1

/-- Joins rows with equal fields; rows without a partner are written on demand. -/
def joinedRows (s : JoinStyle) (showsPairs : Bool) (showsFirst showsSecond : Bool) :
    Nat → List (List Chars) → List (List Chars) → Chars
  | 0, _, _ => []
  | _, [], [] => []
  | n + 1, as, bs =>
    let fold (cs : Chars) : Chars := if s.isCaseless then cs.map Char.toLower else cs
    let keyA (r : List Chars) : Chars := fold (s.keyOf false r)
    let keyB (r : List Chars) : Chars := fold (s.keyOf true r)
    let order := match as, bs with
      | [], _ => Ordering.gt
      | _, [] => Ordering.lt
      | a :: _, b :: _ => compareBytes (keyA a) (keyB b)
    match order with
    | .lt =>
      (if showsFirst then s.shown as.head? none else []) ++
        joinedRows s showsPairs showsFirst showsSecond n (as.drop 1) bs
    | .gt =>
      (if showsSecond then s.shown none bs.head? else []) ++
        joinedRows s showsPairs showsFirst showsSecond n as (bs.drop 1)
    | .eq =>
      let key := keyA (as.headD [])
      let (sameA, restA) := as.span fun r => keyA r == key
      let (sameB, restB) := bs.span fun r => keyB r == key
      (if showsPairs then sameA.flatMap fun a => sameB.flatMap fun b => s.shown (some a) (some b)
        else []) ++ joinedRows s showsPairs showsFirst showsSecond n restA restB

/-- Joins the lines of two sorted sources that have a field in common. -/
def join : Utility := fun t => do
  let fs ← flagsOf t 1 ["1=", "2=", "a=", "e=", "i,ignore-case", "j=", "o=", "t=", "v=",
    "check-order", "nocheck-order", "header", "z,zero-terminated"]
  let number (key : String) : Step (Option Nat) := do
    match fs.value? key with
    | none => return none
    | some w =>
      if w.isEmpty || !w.all isDecimal || numberOf 10 w = 0 then
        complain t ("invalid field number: ".toList ++ Quoting.plainly w)
        Step.exit 1
      return some (numberOf 10 w)
  let both ← number "j"
  let first ← number "1"
  let second ← number "2"
  let tab? ← match fs.value? "t" with
    | none => pure none
    | some [] => pure (some '\n')
    | some [c] => pure (some c)
    | some ['\\', '0'] => pure (some '\x00')
    | some w =>
      complain t ("multi-character tab ".toList ++ Quoting.plainly w)
      Step.exit 1
  let format? ← match fs.values "o" with
    | [] => pure none
    | texts => some <$> joinFields t ([','].intercalate texts)
  let (a, b) ← twoSources t fs
  let s : JoinStyle := {
    tab?
    fields := ((first.or both).getD 1, (second.or both).getD 1)
    isCaseless := fs.has "i"
    missing := (fs.value? "e").getD []
    format? }
  let rows (text : Chars) : List (List Chars) := (rowsEndingIn (lineEnd fs) text).map s.split
  let shows (file : Char) : Bool := (fs.values "a" ++ fs.values "v").contains [file]
  let (as, bs) := (rows a, rows b)
  let heading := if fs.has "header" then s.shown as.head? bs.head? else []
  let (as, bs) := if fs.has "header" then (as.drop 1, bs.drop 1) else (as, bs)
  print t (heading ++ joinedRows s (!fs.has "v") (shows '1') (shows '2')
    (as.length + bs.length + 1) as bs)
  return 0

/-! ## 4. Other orders -/

/-- Writes its lines, or its operands, in some order. -/
def shuf : Utility := fun t => do
  let fs ← flagsOf t 1 ["e,echo", "i,input-range=", "n,head-count=", "o,output=", "r,repeat",
    "z,zero-terminated", "random-source="]
  let mark := lineEnd fs
  let rows ← match fs.has "e", fs.value? "i" with
    | true, _ => pure fs.operands
    | _, some range =>
      let low := range.takeWhile isDecimal
      let high := (range.drop low.length).drop 1
      if low.isEmpty || high.isEmpty || !high.all isDecimal then
        complain t ("invalid input range: ".toList ++ Quoting.plainly range)
        Step.exit 1
      let (low, high) := (numberOf 10 low, numberOf 10 high)
      pure ((List.range (high + 1 - low)).map fun k => digits (low + k))
    | _, none =>
      match ← content t ((sourcesOf fs.operands).headD ['-']) with
      | .ok text => pure (rowsEndingIn mark text)
      | .error e =>
        complainNamed t (fs.operands.headD ['-']) e
        Step.exit 1
  let count := ((fs.value? "n").map (numberOf 10)).getD rows.length
  print t ((rows.take count).flatMap (· ++ [mark]))
  return 0

end LintRun.Utility

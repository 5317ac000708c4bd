import LintRun.Machine.Utility.Comparing
import LintRun.Machine.Utility.Dates
import LintRun.Shell.Glob

/-!
# Utilities that list files

`ls` lists what is in directories, in one column or in several; `stat` tells what is noted about
a file.

* `ListStyle.row` shows one entry;
* `columns` arranges entries.
-/

namespace LintRun.Utility

/-! ## 1. Entries -/

/-- Something to be listed: the name under which it is shown, and what it is. -/
structure Listed where
  name : Chars
  node : Node
  /-- The path at which it is. -/
  path : Chars

/-- The size that is noted for an entry. -/
def noteSize (node : Node) : Nat :=
  match node with
  | .file f => f.content.length
  | .link target => target.bytes.length
  | .directory _ => 4096

/-- The room that an entry takes, in units of 1024 bytes. -/
def noteBlocks (node : Node) : Nat :=
  match node with
  | .file f => (f.content.length + 4095) / 4096 * 4
  | .link _ => 0
  | .directory _ => 4

/-- The permission bits that are noted for an entry. -/
def noteMode (node : Node) : Nat :=
  match node with
  | .file f => f.mode
  | .link _ => 0o777
  | .directory _ => 0o755

/-- How many names an entry has. -/
def noteLinks (node : Node) : Nat :=
  match node with
  | .directory inside => 2 + ((sortedEntries inside).filter fun e =>
      match e.2 with
      | .directory _ => true
      | _ => false).length
  | _ => 1

/-- The letter for a kind of entry. -/
def kindLetter (node : Node) : Char :=
  match node with
  | .file _ => '-'
  | .link _ => 'l'
  | .directory _ => 'd'

/-- How names are written. -/
inductive NameStyle
  | literal
  | shell
  | shellAlways
  | inC
  | escaped
  deriving DecidableEq

/-- A name in double quotes, or with escapes alone. -/
def escapedName (quotes : Bool) (name : Chars) : Chars :=
  let body := name.flatMap fun c =>
    if c == '\\' || (quotes && c == '"') || (!quotes && c == ' ') then ['\\', c]
    else if Quoting.isShown c then [c] else Quoting.escaped c
  if quotes then '"' :: body ++ ['"'] else body

/-- A name as it is written. -/
def NameStyle.shown (s : NameStyle) (name : Chars) : Chars :=
  match s with
  | .literal => name
  | .shell => Quoting.ifNeeded name
  | .shellAlways => Quoting.quoted name
  | .inC => escapedName true name
  | .escaped => escapedName false name

/-- How a list is made. -/
structure ListStyle where
  names : NameStyle
  isLong : Bool
  showsBlocks : Bool
  showsOwner : Bool
  showsGroup : Bool
  inNumbers : Bool
  /-- The mark after a name: none, one for directories, or one for every kind. -/
  marks : Option String
  mark : Char

namespace ListStyle

/-- The mark after a name. -/
def ending (s : ListStyle) (node : Node) : Chars :=
  match s.marks, node with
  | none, _ => []
  | some _, .directory _ => ['/']
  | some "p", _ => []
  | some _, .link _ => if s.isLong then [] else ['@']
  | some "F", .file f => if f.executable then ['*'] else []
  | some _, _ => []

/-- The widths of the columns of long rows. -/
structure Widths where
  blocks : Nat := 0
  links : Nat := 0
  size : Nat := 0

/-- The widths for some entries. -/
def widths (entries : List Listed) : Widths :=
  let most (f : Node → Nat) : Nat :=
    (entries.map fun e => (digits (f e.node)).length).foldl max 0
  { blocks := most noteBlocks, links := most noteLinks, size := most noteSize }

/-- One entry as it is shown. -/
def row (s : ListStyle) (w : Widths) (e : Listed) : Chars :=
  let blocks := if s.showsBlocks then rightAligned w.blocks (digits (noteBlocks e.node)) ++ [' ']
    else []
  let user := if s.inNumbers then ['0'] else "root".toList
  let long := if !s.isLong then [] else
    let time := match e.node with
      | .file f => f.modified
      | _ => 0
    kindLetter e.node :: modeLetters (noteMode e.node) ++
      ' ' :: rightAligned w.links (digits (noteLinks e.node)) ++
      (if s.showsOwner then ' ' :: user else []) ++ (if s.showsGroup then ' ' :: user else []) ++
      ' ' :: rightAligned w.size (digits (noteSize e.node)) ++
      ' ' :: (Moment.ofNanoseconds time).shown "%b %e %H:%M".toList ++ [' ']
  let goal := match s.isLong, e.node with
    | true, .link target => " -> ".toList ++ s.names.shown (ofOctets target.bytes)
    | _, _ => []
  blocks ++ long ++ s.names.shown e.name ++ s.ending e.node ++ goal

end ListStyle

/-! ## 2. Columns -/

/-- Blanks from one column to another, with tabs where they reach a stop. -/
def gapBetween (tab : Nat) : Nat → (start stop : Nat) → Chars
  | 0, _, _ => []
  | n + 1, start, stop =>
    if stop ≤ start then []
    else if tab != 0 && decide ((start + 1) / tab < stop / tab) then
      '\t' :: gapBetween tab n (start + tab - start % tab) stop
    else ' ' :: gapBetween tab n (start + 1) stop

/-- Where the entry with an index stands: its column, of so many. -/
def columnOf (isDown : Bool) (count columns index : Nat) : Nat :=
  if isDown then index / ((count + columns - 1) / columns) else index % columns

/-- The widths of so many columns. -/
def columnWidths (isDown : Bool) (lengths : List Nat) (columns : Nat) : List Nat :=
  let placed := lengths.mapIdx fun k n =>
    let c := columnOf isDown lengths.length columns k
    (c, if c + 1 = columns then n else n + 2)
  (List.range columns).map fun c =>
    (placed.filterMap fun (d, n) => if d = c then some n else none).foldl max 3

/-- How many columns fit on a line. -/
def fittingColumns (isDown : Bool) (line : Nat) (lengths : List Nat) : Nat :=
  let most := min lengths.length (max 1 ((line + 2) / 3))
  ((List.range most).reverse.find? fun k =>
    decide ((columnWidths isDown lengths (k + 1)).foldl (· + ·) 0 < line)).map (· + 1) |>.getD 1

/-- Cells on lines, each cell at the start of its column. -/
def arranged (tab : Nat) (isDown : Bool) (line : Nat) (cells : List Chars) : Chars :=
  let lengths := cells.map (·.length)
  let columns := max 1 (fittingColumns isDown line lengths)
  let widths := columnWidths isDown lengths columns
  let count := cells.length
  let height := (count + columns - 1) / columns
  let line (k : Nat) : Chars :=
    let indices := if isDown then (List.range columns).map fun c => k + c * height
      else (List.range columns).map fun c => k * columns + c
    let shown := (indices.filter (· < count)).map fun i => cells.getD i []
    (shown.zip widths).foldl (fun (text, start, pending) (cell, width) =>
      (text ++ gapBetween tab (width + 256) pending start ++ cell, start + width,
        start + cell.length)) (([] : Chars), 0, 0) |>.1
  (List.range height).flatMap fun k => line k ++ ['\n']

/-- Cells with commas between them, on lines of a width. -/
def withCommas (line : Nat) (cells : List Chars) : Chars :=
  let (text, _) := cells.foldl (fun (text, pos) cell =>
    let n := cell.length
    match text with
    | none => (some cell, n)
    | some text =>
      if pos + n + 2 < line || line = 0 then (some (text ++ [',', ' '] ++ cell), pos + n + 2)
      else (some (text ++ [',', '\n'] ++ cell), n)) ((none : Option Chars), 0)
  match text with
  | some text => text ++ ['\n']
  | none => []

/-! ## 3. The utility -/

/-- The ways in which a list is laid out. -/
inductive Layout
  | oneEach
  | down (width tab : Nat)
  | across (width tab : Nat)
  | commas (width : Nat)

/-- Rows laid out. -/
def Layout.shown (l : Layout) (mark : Char) (rows : List Chars) : Chars :=
  match l with
  | .oneEach => rows.flatMap (· ++ [mark])
  | .down width tab => if rows.isEmpty then [] else arranged tab true width rows
  | .across width tab => if rows.isEmpty then [] else arranged tab false width rows
  | .commas width => withCommas width rows

/-- The order that flags ask for. -/
def listOrder (fs : Flags) (entries : List Listed) : List Listed :=
  let byName (a b : Listed) : Ordering := compareBytes a.name b.name
  let ending (n : Chars) : Chars :=
    if n.contains '.' then '.' :: (n.reverse.takeWhile (· != '.')).reverse else []
  let time (e : Listed) : Int := modifiedOf e.node
  let first (a b : Listed) : Ordering :=
    match fs.last? ["t", "S", "v", "X", "U", "f", "sort"], fs.value? "sort" with
    | some "t", _ => signOf (time b) (time a)
    | some "S", _ => signOf (noteSize b.node) (noteSize a.node)
    | some "v", _ => compareVersions a.name b.name
    | some "X", _ => compareBytes (ending a.name) (ending b.name)
    | some "sort", some w => match String.ofList w with
      | "time" => signOf (time b) (time a)
      | "size" => signOf (noteSize b.node) (noteSize a.node)
      | "version" => compareVersions a.name b.name
      | "extension" => compareBytes (ending a.name) (ending b.name)
      | _ => .eq
    | _, _ => .eq
  let compare (a b : Listed) : Ordering := (first a b).then (byName a b)
  let sorted := entries.mergeSort fun a b => compare a b != .gt
  let sorted := if fs.has "r" then sorted.reverse else sorted
  if fs.has "group-directories-first" then
    let isFolder (e : Listed) : Bool := kindLetter e.node == 'd'
    sorted.filter isFolder ++ sorted.filter (!isFolder ·)
  else sorted
where
  modifiedOf (node : Node) : Int :=
    match node with
    | .file f => f.modified
    | _ => 0

/-- The names in a directory that are listed. -/
def isListed (fs : Flags) (name : Chars) : Bool :=
  let matchesGlob (pattern : Chars) : Bool :=
    Shell.Glob.isMatch (Shell.Glob.ofWord (pattern.map fun c => (false, c))) name &&
      (name.head? != some '.' || pattern.head? == some '.')
  let showsHidden := ["a", "A", "f"].any fs.has
  (showsHidden || name.head? != some '.') && !((fs.values "I").any matchesGlob) &&
    (showsHidden || !((fs.values "hide").any matchesGlob)) &&
    !(fs.has "B" && name.getLast? = some '~')

/-- What is listed of a directory. -/
def listedIn (fs : Flags) (tree : Tree) (path : Chars) (inside : Listing) : List Listed :=
  let held := ((sortedEntries inside).filter fun e => isListed fs e.1).map fun (name, node) =>
    let here := within path name
    let node := if fs.has "L" then (tree.stat? (.ofChars here)).getD node else node
    (⟨name, node, here⟩ : Listed)
  let showsDots := match fs.last? ["a", "A", "f"] with
    | some "a" | some "f" => true
    | _ => false
  let above : Node := (tree.stat? (.ofChars (within path ['.', '.']))).getD (.directory .empty)
  let dots : List Listed := if showsDots then
      [⟨['.'], .directory inside, path⟩, ⟨['.', '.'], above, within path ['.', '.']⟩]
    else []
  dots ++ held

/-- Lists directories, each with those in it if that is asked for. -/
def listFolders (t : Task) (fs : Flags) (s : ListStyle) (layout : Layout)
    (hasTitles : Bool) : Nat → (isFirst : Bool) → List (Chars × Listing) → Step PUnit
  | 0, _, _ => pure ()
  | _, _, [] => pure ()
  | n + 1, isFirst, (path, inside) :: more => do
    let tree ← Step.act t.tree
    let entries := listOrder fs (listedIn fs tree path inside)
    if !isFirst then print t ['\n']
    if hasTitles then print t (s.names.shown path ++ ":\n".toList)
    if s.isLong || s.showsBlocks then
      printLine t ("total ".toList ++
        digits ((entries.map fun e => noteBlocks e.node).foldl (· + ·) 0))
    print t (layout.shown s.mark (entries.map (s.row (ListStyle.widths entries))))
    let deeper := if !fs.has "R" then [] else
      entries.filterMap fun e =>
        match e.node with
        | .directory inside =>
          if e.name = ['.'] || e.name = ['.', '.'] then none
          else some (within path e.name, inside)
        | _ => none
    listFolders t fs s layout hasTitles n false (deeper ++ more)

/-- How many directories a listing holds altogether. -/
def folderCount : Listing → Nat
  | .empty => 0
  | .file _ _ rest | .link _ _ rest => folderCount rest
  | .directory _ inside rest => folderCount inside + folderCount rest + 1

/-- The name style that flags ask for. -/
def nameStyleOf (fs : Flags) : NameStyle :=
  match fs.last? ["Q", "b", "N", "quoting-style"], fs.value? "quoting-style" with
  | some "Q", _ => .inC
  | some "b", _ => .escaped
  | some "quoting-style", some w => match String.ofList w with
    | "shell" | "shell-escape" => .shell
    | "shell-always" | "shell-escape-always" => .shellAlways
    | "c" | "c-maybe" => .inC
    | "escape" => .escaped
    | _ => .literal
  | _, _ => .literal

/-- Lists files and what is in directories. -/
def ls : Utility := fun t => do
  let fs ← flagsOf t 2 ["a,all", "A,almost-all", "author", "b,escape", "block-size=",
    "B,ignore-backups", "c", "C", "color[", "d,directory", "D,dired", "f", "F", "classify[",
    "file-type", "format=", "full-time", "g", "group-directories-first", "G,no-group",
    "h,human-readable", "si", "H,dereference-command-line", "hide=", "hyperlink[",
    "indicator-style=", "i,inode", "I,ignore=", "k,kibibytes", "l", "L,dereference", "m",
    "n,numeric-uid-gid", "N,literal", "o", "p", "q,hide-control-chars", "show-control-chars",
    "Q,quote-name", "quoting-style=", "r,reverse", "R,recursive", "s,size", "S", "sort=",
    "time=", "time-style=", "t", "T,tabsize=", "u", "U", "v", "w,width=", "x", "X", "Z,context",
    "zero", "1"]
  let number (key : String) (usual : Nat) : Nat :=
    ((fs.value? key).map (numberOf 10)).getD usual
  let isLong := ["l", "g", "o", "n", "full-time"].any fs.has &&
    (match fs.last? ["l", "g", "o", "n", "C", "x", "m", "1"] with
      | some "C" | some "x" | some "m" => false
      | _ => true)
  let width := number "w" 80
  let tab := number "T" 8
  let layout : Layout := if isLong then .oneEach else
    match fs.last? ["C", "x", "m", "1", "zero"] with
    | some "C" => .down width tab
    | some "x" => .across width tab
    | some "m" => .commas width
    | _ => .oneEach
  let s : ListStyle := {
    names := nameStyleOf fs
    isLong
    showsBlocks := fs.has "s"
    showsOwner := !fs.has "g"
    showsGroup := !fs.has "o" && !fs.has "G"
    inNumbers := fs.has "n"
    marks := match fs.last? ["F", "p", "file-type"] with
      | some "file-type" => some "t"
      | k => k
    mark := if fs.has "zero" then '\x00' else '\n' }
  let tree ← Step.act t.tree
  let followsLinks := fs.has "L" || fs.has "H" || !(isLong || fs.has "d" || fs.has "F")
  let find (path : Chars) : Step (Option Listed) := do
    let direct : Except OsError Node := (tree.locate false (.ofChars path)).map (·.node)
    let followed : Except OsError Node := (tree.locate true (.ofChars path)).map (·.node)
    let isFolder : Bool := match followed with
      | .ok (.directory _) => true
      | _ => false
    let found := if fs.has "L" then followed
      else if followsLinks && isFolder then followed else direct
    match found with
    | .ok node => return some ⟨path, node, path⟩
    | .error e =>
      complainOf t "cannot access ".toList path e
      return none
  let operands := if fs.operands.isEmpty then [['.']] else fs.operands
  let found ← operands.mapM find
  let listed := listOrder fs (found.filterMap id)
  let isOpened (e : Listed) : Bool := !fs.has "d" && kindLetter e.node == 'd'
  let files := listed.filter (!isOpened ·)
  let folders := (listed.filter isOpened).filterMap fun e =>
    match e.node with
    | .directory inside => some (e.name, inside)
    | _ => none
  print t (layout.shown s.mark (files.map (s.row (ListStyle.widths files))))
  let hasTitles := operands.length > 1 || fs.has "R"
  let count := (folders.map fun f => folderCount f.2 + 1).foldl (· + ·) 1
  listFolders t fs s layout hasTitles count files.isEmpty folders
  return if found.all (·.isSome) then 0 else 2

/-! ## 4. What is noted about a file -/

/-- What a letter after a percent sign tells about a file. -/
def notePiece (path : Chars) (node : Node) (c : Char) : Chars :=
  let time := match node with
    | .file f => f.modified
    | _ => 0
  let shownTime := (Moment.ofNanoseconds time).shown "%F %T.%N %z".toList
  let seconds := (Moment.ofNanoseconds time).shown ['%', 's']
  match c with
  | 'n' => path
  | 'N' => match node with
    | .link target => Quoting.quoted path ++ " -> ".toList ++ Quoting.quoted (ofOctets target.bytes)
    | _ => Quoting.quoted path
  | 's' => digits (noteSize node)
  | 'b' => digits (noteBlocks node * 2)
  | 'B' => "512".toList
  | 'a' => octalDigits (noteMode node)
  | 'A' => kindLetter node :: modeLetters (noteMode node)
  | 'F' => (kindOf node).toList
  | 'U' | 'G' => "root".toList
  | 'u' | 'g' => ['0']
  | 'h' => digits (noteLinks node)
  | 'o' => "4096".toList
  | 'x' | 'y' | 'z' => shownTime
  | 'X' | 'Y' | 'Z' => seconds
  | 'f' => Nat.toDigits 16 (noteMode node + match node with
      | .file _ => 0x8000
      | .link _ => 0xA000
      | .directory _ => 0x4000)
  | '%' => ['%']
  | _ => ['?']

/-- What a format tells about a file; a width may stand after a percent sign. -/
def noted (path : Chars) (node : Node) : Nat → Chars → Chars
  | 0, _ => []
  | _, [] => []
  | n + 1, '%' :: cs =>
    let isLeft := cs.head? = some '-'
    let rest := if isLeft then cs.drop 1 else cs
    let isZero := rest.head? = some '0'
    let ds := rest.takeWhile isDecimal
    match rest.drop ds.length with
    | c :: more =>
      let text := notePiece path node c
      let width := numberOf 10 ds
      let text := if isLeft then leftAligned width text
        else if isZero then List.replicate (width - text.length) '0' ++ text
        else rightAligned width text
      text ++ noted path node n more
    | [] => ['%']
  | n + 1, c :: cs => c :: noted path node n cs

/-- A format whose escapes are resolved. -/
def formatEscapes : Chars → Chars
  | '\\' :: c :: cs =>
    (match c with
      | 'n' => '\n'
      | 't' => '\t'
      | '0' => '\x00'
      | c => c) :: formatEscapes cs
  | c :: cs => c :: formatEscapes cs
  | [] => []

/-- Tells what is noted about files. -/
def stat : Utility := fun t => do
  let fs ← flagsOf t 1 ["c,format=", "printf=", "f,file-system", "L,dereference", "t,terse",
    "cached="]
  if fs.operands.isEmpty then missingOperand t 1
  let isFine ← forAll (fun path => do
    match ← nodeAt t (fs.has "L") path with
    | .error e =>
      complainOf t "cannot statx ".toList path e
      return false
    | .ok node =>
      let format := match fs.last? ["c", "printf"] with
        | some "printf" => formatEscapes ((fs.value? "printf").getD [])
        | some _ => (fs.value? "c").getD [] ++ ['\n']
        | none =>
          if fs.has "t" then "%n %s %b %f %u %g 0 0 %h 0 0 %X %Y %Z 0 %o\n".toList
          else ("  File: %N\n  Size: %-10s\tBlocks: %-10b IO Block: %-6o %F\n" ++
            "Device: 0,0\tInode: 0           Links: %h\n" ++
            "Access: (%04a/%A)  Uid: (    0/    root)   Gid: (    0/    root)\n" ++
            "Access: %x\nModify: %y\nChange: %z\n Birth: -\n").toList
      print t (noted path node (format.length + 1) format)
      return true) fs.operands
  return codeOf isFine

end LintRun.Utility

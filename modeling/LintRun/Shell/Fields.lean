import LintRun.Shell.Glob
import LintRun.Text.Pieces
import LintRun.Tree.Change

/-!
# From expanded words to fields

An expanded word is a list of bits: characters with the way they came about, and marks between
them.  `fields` cuts it where text from parameters outside quotes holds separators, and
`wordsOf` takes a field as a glob for paths.
-/

namespace LintRun.Shell

/-- A bit of an expanded word. -/
inductive Bit
  /-- A character; loose ones come from parameters outside quotes. -/
  | char (isQuoted isLoose : Bool) (c : Char)
  /-- The place of a quote, which keeps an empty field. -/
  | quote
  /-- The start of a loose text. -/
  | seam
  /-- The place between two arguments in quotes. -/
  | cut
  deriving DecidableEq, Inhabited

/-! ## 1. Cutting -/

/-- The separators among blanks. -/
def isBlankSeparator (c : Char) : Bool := c == ' ' || c == '\t' || c == '\n' || c == '\x00'

/-- A field that is being put together, latest first, and whether there is anything in it. -/
structure OpenField where
  characters : List Marked := []
  isStarted : Bool := false

/-- What follows the separator of two fields. -/
inductive Gap
  | none
  /-- After blanks: one separator of another kind belongs to them. -/
  | blank
  | sign

/-- Cuts bits into fields at the separators. -/
def cutFields (separators : Chars) : OpenField → Gap → List Bit → List (List Marked)
  | f, _, [] => if f.isStarted then [f.characters.reverse] else []
  | f, _, .quote :: bits => cutFields separators { f with isStarted := true } .none bits
  | f, _, .seam :: bits => cutFields separators f .none bits
  | f, _, .cut :: bits =>
    f.characters.reverse :: cutFields separators { isStarted := true } .none bits
  | f, gap, .char q isLoose c :: bits =>
    if !isLoose || !(separators.contains c || c == '\x00') then
      cutFields separators ⟨(q, c) :: f.characters, true⟩ .none bits
    else
      match gap, isBlankSeparator c with
      | .blank, true | .sign, true => cutFields separators f gap bits
      | .blank, false => cutFields separators f .sign bits
      | _, isBlank =>
        if isBlank && !f.isStarted then cutFields separators f .none bits
        else
          f.characters.reverse :: cutFields separators {} (if isBlank then .blank else .sign) bits

/-- The fields of an expanded word. -/
def fields (separators : Chars) (bits : List Bit) : List (List Marked) :=
  cutFields separators {} .none bits

/-- An expanded word as one marked text. -/
def markedText (bits : List Bit) : List Marked :=
  bits.filterMap fun
    | .char q _ c => some (q, c)
    | _ => none

/-- An expanded word as one text. -/
def textOfBits (bits : List Bit) : Chars := (markedText bits).map (·.2)

/-! ## 2. Paths -/

/-- The names in a directory. -/
def entryNames : Listing → List Name
  | .empty => []
  | .file n _ rest => n :: entryNames rest
  | .link n _ rest => n :: entryNames rest
  | .directory n _ rest => n :: entryNames rest

/-- The paths of a place that the parts of a glob stand for. -/
def matchingPaths (place : Tree) : Chars → List (List Marked) → List Chars
  | before, [] => if (place.lstat? (.ofChars before)).isSome then [before] else []
  | before, part :: parts =>
    let start (n : Chars) : Chars :=
      if parts.isEmpty then before ++ n else before ++ n ++ ['/']
    if !Glob.isActive part then matchingPaths place (start (part.map (·.2))) parts
    else
      let directory := if before.isEmpty then ['.'] else before
      let names := match place.stat? (.ofChars directory) with
        | some (.directory inside) => ['.'] :: ['.', '.'] :: (entryNames inside).map ofOctets
        | _ => []
      let visible := names.filter fun n => part.head?.map (·.2) = some '.' || n.head? != some '.'
      let chosen := visible.filter (Glob.isMatch (Glob.ofWord part))
      chosen.flatMap fun n => matchingPaths place (start n) parts

/-- The words that a field stands for: paths if it is a glob for some, else itself. -/
def wordsOf (place : Tree) (field : List Marked) : List Chars :=
  if !Glob.isActive field then [field.map (·.2)]
  else
    match matchingPaths place [] (LintRun.pieces (fun m => m.2 == '/') field) with
    | [] => [field.map (·.2)]
    | paths => paths.mergeSort fun a b => !decide (b < a)

end LintRun.Shell

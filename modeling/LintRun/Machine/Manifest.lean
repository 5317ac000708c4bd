import LintRun.Machine.Basic
import LintRun.Tree.Edit

/-!
# Manifests

A manifest describes a machine line by line: its variables, its directories, links, files and
programs, each by a path, and the directory in which it works.  Lines that start with a bar are
the content of the file or program before them.

The machines of the tests are given in this form.
-/

namespace LintRun

/-- A line of a manifest. -/
inductive ManifestLine
  | variable (name value : String)
  | directory (path : Path)
  | link (path goal : Path)
  | file (path : Path) (isProgram : Bool)
  | content (text : String)
  | workIn (path : Path)
  deriving DecidableEq

namespace ManifestLine

/-- The first word of a text and what follows the blank after it. -/
def cutWord (cs : List Char) : List Char × List Char :=
  (cs.takeWhile (· != ' '), (cs.dropWhile (· != ' ')).drop 1)

/-- The path that characters spell. -/
def path (cs : List Char) : Path := .ofString (String.ofList cs)

/-- The meaning of a line, if it has one. -/
def read? (text : String) : Option ManifestLine :=
  match text.toList with
  | '|' :: cs => some (.content (String.ofList cs))
  | cs =>
    let (word, rest) := cutWord cs
    match String.ofList word with
    | "set" =>
      let (name, value) := cutWord rest
      some (.variable (String.ofList name) (String.ofList value))
    | "directory" => some (.directory (path rest))
    | "link" =>
      let (goal, place) := cutWord rest
      some (.link (path place) (path goal))
    | "file" => some (.file (path rest) false)
    | "program" => some (.file (path rest) true)
    | "in" => some (.workIn (path rest))
    | _ => none

end ManifestLine

/-- A machine that is being described, with the file whose content comes next. -/
structure Description where
  machine : Machine
  open? : Option (Path × File) := none

/-- A description with one line more. -/
def Description.add (d : Description) (line : ManifestLine) : Description :=
  let m := d.machine
  match line with
  | .variable name value =>
    ⟨{ m with environment := m.environment.insert (name, value) }, none⟩
  | .directory p => ⟨m.withTree (m.tree.makeDirectory p), none⟩
  | .link p goal => ⟨m.withTree (m.tree.makeLink p goal), none⟩
  | .file p isProgram =>
    let f : File := if isProgram then .program [] else {}
    ⟨m.withTree (m.tree.write p f), some (p, f)⟩
  | .content text =>
    match d.open? with
    | none => d
    | some (p, f) =>
      let f := { f with content := f.content ++ Utf8.encode text ++ [10] }
      ⟨m.withTree (m.tree.write p f), some (p, f)⟩
  | .workIn p => ⟨m.withTree ((m.tree.enter p).toOption.getD m.tree), none⟩

/-- The machine that a manifest describes. -/
def Machine.ofManifest (text : String) : Machine :=
  let empty : Machine := {
    root := systemListing
    environment := .ofList [("PATH", "/usr/bin:/bin")] }
  (((textLines text).filterMap ManifestLine.read?).foldl Description.add ⟨empty, none⟩).machine

end LintRun

import LintRun.Unicode.Age
import LintRun.Unicode.Break
import LintRun.Unicode.Category
import LintRun.Unicode.Property
import LintRun.Unicode.Script

/-!
# Properties by name

The characters that a property name stands for, alone or with a value.  Names are compared
loosely: without case, blanks, hyphens, underscores and a leading `is`.
-/

namespace LintRun.Unicode

/-- Stretches of characters, as first and last code points. -/
abbrev Ranges := List (Nat × Nat)

/-! ## 1. Names -/

/-- A name without what does not distinguish names.  The short name of ISO_Comment keeps its
`is`, so that it is not taken for the category C. -/
def looseName (name : String) : String :=
  let cs := name.toList
  let kept := cs.filterMap fun c =>
    if c == ' ' || c == '_' || c == '-' || c.toNat > 0x7F then none else some c.toLower
  let afterIs := kept.drop 2
  if (cs.take 2).map Char.toLower != ['i', 's'] || afterIs == ['c'] then String.ofList kept
  else String.ofList afterIs

/-- The label of the value that goes by a loose name. -/
def label? (names : List (String × List String)) (loose : String) : Option String :=
  (names.find? fun (label, others) =>
    (label :: others).any fun name => looseName name == loose).map (·.1)

/-! ## 2. Values -/

/-- Every code point. -/
def everything : Ranges := [(0, Runs.lastPoint)]

/-- The characters of a general category, or of one of the sets that go by as one. -/
def inCategory? (loose : String) : Option Ranges :=
  if loose = "any" then some everything
  else if loose = "assigned" then some (categoryRuns.ranges (· != "Cn"))
  else if loose = "ascii" then some [(0, 0x7F)]
  else (label? categoryNames loose).bind categoryRanges?

/-- The characters of a script. -/
def inScript? (loose : String) : Option Ranges := (label? scriptNames loose).map scriptRanges

/-- The characters with a script among their extensions. -/
def inExtension? (loose : String) : Option Ranges :=
  (label? scriptNames loose).map extensionRanges

/-- What was assigned in a version or before; versions are written `1.1` or `V1_1`. -/
def ofAge? (loose : String) : Option Ranges :=
  (versions.find? fun (_, version) =>
    version == loose || "v" ++ version.replace "." "" == loose).map fun (label, _) =>
      ageRanges label

/-- The characters with a value of a property of breaks. -/
def ofBreak? (names : List (String × List String)) (lines : List String) (loose : String) :
    Option Ranges :=
  (label? names loose).map fun label => (Runs.ofLabelled lines).ranges (· == label)

/-- The characters with a binary property. -/
def withProperty? (loose : String) : Option Ranges :=
  (propertyLines.find? fun (names, _) => names.any fun n => looseName n == loose).map
    fun (_, lines) => (Runs.ofAlternating lines).ranges id

/-! ## 3. Properties -/

/-- The characters that a name stands for by itself: those of a binary property, a general
category or a script. -/
def named? (name : String) : Option Ranges :=
  let loose := looseName name
  withProperty? loose <|> inCategory? loose <|> inScript? loose

/-- The characters for which a property has a value. -/
def valued? (property value : String) : Option Ranges :=
  let loose := looseName value
  match looseName property with
  | "gc" | "generalcategory" => inCategory? loose
  | "sc" | "script" => inScript? loose
  | "scx" | "scriptextensions" => inExtension? loose
  | "age" => ofAge? loose
  | "gcb" | "graphemeclusterbreak" => ofBreak? graphemeBreakNames graphemeBreakLines loose
  | "wb" | "wordbreak" => ofBreak? wordBreakNames wordBreakLines loose
  | "sb" | "sentencebreak" => ofBreak? sentenceBreakNames sentenceBreakLines loose
  | _ => none

end LintRun.Unicode

import LintRun.Path.Basic

/-!
# Which file names belong to a category

A category owns the files whose name ends in a dot and one of its extensions.  The test is
on the end of the name, so `d.ts` is an extension and `BUILD.gn` has the extension `gn`.
Extensions may be written with leading dots.  A name that is not UTF-8 belongs to nobody.

Models `FilePredicate` with its `from_extensions`, `matches` and `extensions`.
-/

namespace LintRun

/-- An extension without its leading dots. -/
def bareExtension (ext : String) : String :=
  String.ofList (ext.toList.dropWhile (· == '.'))

/-- The extensions a category owns, without leading dots. -/
structure Suffixes where
  extensions : List String
  deriving DecidableEq, Inhabited

namespace Suffixes

/-- The suffixes of extensions written with or without leading dots. -/
def ofExtensions (exts : List String) : Suffixes := ⟨exts.map bareExtension⟩

/-- The bytes that the names with an extension end in. -/
def ending (ext : String) : List UInt8 := Path.dot :: Utf8.encode ext

/-- Whether a file name ends in one of the extensions. -/
def ownsName (s : Suffixes) (n : Name) : Bool :=
  Utf8.isValid n && s.extensions.any fun ext => (ending ext).isSuffixOf n

/-- Whether the last part of a path is a name that ends in one of the extensions. -/
def owns (s : Suffixes) (p : Path) : Bool :=
  match p.fileName? with
  | some n => s.ownsName n
  | none => false

end Suffixes

end LintRun

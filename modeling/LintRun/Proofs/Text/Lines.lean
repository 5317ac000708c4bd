import LintRun.Proofs.Text.Pieces

/-!
# Texts and their lines

`TextOf lines text` says what it is for a text to be made of given lines, without cutting
anything: the lines stand in the text in order, with carriage returns and line feeds between
them and perhaps before and after.  Many texts are made of the same lines, but each is made of
one list of lines, the one that cutting gives (`textOf_iff`).

* `runs_append`: line ends between two texts keep their lines apart (`textLines_append`);
* `textLines_of_textOf`: no line is lost, split, merged or trimmed;
* `textOf_textLines`: every text is made of its lines;
* `textOf_intercalate`: lines with line ends between them are a text made of these lines.

The proof in one direction goes by `TextOf`: line ends in front are dropped, a line with line
ends behind it is one line more.  In the other direction it goes by the characters of the text,
from one line end to the next; after each there is a text that is made of its lines by
induction, and what stands before it is a line or nothing.

What counts as a line end is a property of one character, so a carriage return before a line
feed makes an empty stretch between the two, which is no line.
-/

namespace LintRun

/-! ## 1. Stretches between separators

`runs` keeps the pieces that are not empty, so any number of separators does what one does. -/

section Runs

variable {α : Type} {isBreak : α → Bool} {xs ys sep : List α}

theorem runs_of_free (h : Free isBreak xs) (hne : xs ≠ []) : runs isBreak xs = [xs] := by
  rw [runs, pieces_of_free h, List.filter_cons_of_pos (by simpa using hne), List.filter_nil]

/-- **One separator** keeps what it stands between apart. -/
theorem runs_append_break {c : α} (xs ys : List α) (hc : isBreak c = true) :
    runs isBreak (xs ++ c :: ys) = runs isBreak xs ++ runs isBreak ys := by
  rw [runs, pieces_append xs ys hc, List.filter_append, ← runs, ← runs]

/-- Separators at the front make no difference. -/
theorem runs_lead (h : ∀ c ∈ sep, isBreak c = true) (ys : List α) :
    runs isBreak (sep ++ ys) = runs isBreak ys := by
  induction sep with
  | nil => rfl
  | cons c sep ih =>
    obtain ⟨hc, hsep⟩ := List.forall_mem_cons.mp h
    rw [← ih hsep]
    exact runs_append_break [] (sep ++ ys) hc

/-- **Any number of separators**, but one at least, keeps what it stands between apart. -/
theorem runs_append (h : ∀ c ∈ sep, isBreak c = true) (hne : sep ≠ []) (xs ys : List α) :
    runs isBreak (xs ++ sep ++ ys) = runs isBreak xs ++ runs isBreak ys := by
  cases sep with
  | nil => exact absurd rfl hne
  | cons c sep =>
    obtain ⟨hc, hsep⟩ := List.forall_mem_cons.mp h
    rw [List.append_assoc, List.cons_append, runs_append_break xs _ hc, runs_lead hsep]

end Runs

/-! ## 2. What a text is made of

There is no cutting in this section. -/

/-- A text of carriage returns and line feeds only, in any mix. -/
def IsLineEnds (text : String) : Prop := ∀ c ∈ text.toList, c = '\r' ∨ c = '\n'

/-- A text with a character in it, none of them a carriage return or a line feed. -/
def IsLine (text : String) : Prop := text ≠ "" ∧ ∀ c ∈ text.toList, c ≠ '\r' ∧ c ≠ '\n'

/-- A text in which the lines stand in order, with line ends between any two of them, and with
or without line ends before and after. -/
inductive TextOf : List String → String → Prop
  | none {ends : String} (hends : IsLineEnds ends) : TextOf [] ends
  | last {lead line : String} (hlead : IsLineEnds lead) (hline : IsLine line) :
      TextOf [line] (lead ++ line)
  | next {lead line ends rest : String} {lines : List String} (hlead : IsLineEnds lead)
      (hline : IsLine line) (hends : IsLineEnds ends) (hne : ends ≠ "")
      (hrest : TextOf lines rest) : TextOf (line :: lines) (lead ++ line ++ ends ++ rest)

variable {text ends line : String} {lines : List String}

theorem isLineEnd_iff_eq {c : Char} : isLineEnd c = true ↔ c = '\r' ∨ c = '\n' := by
  rw [isLineEnd, Bool.or_eq_true, beq_iff_eq, beq_iff_eq]

theorem isLineEnds_iff : IsLineEnds ends ↔ ∀ c ∈ ends.toList, isLineEnd c = true :=
  forall₂_congr fun _ _ => isLineEnd_iff_eq.symm

instance (text : String) : Decidable (IsLineEnds text) :=
  decidable_of_iff (text.toList.all isLineEnd = true) (List.all_eq_true.trans isLineEnds_iff.symm)

theorem isLineEnds_empty : IsLineEnds "" := nofun

theorem IsLineEnds.append {ends' : String} (h : IsLineEnds ends) (h' : IsLineEnds ends') :
    IsLineEnds (ends ++ ends') := by
  intro c hc
  rw [String.toList_append] at hc
  exact (List.mem_append.mp hc).elim (h c) (h' c)

theorem isLine_iff : IsLine line ↔ line.toList ≠ [] ∧ Free isLineEnd line.toList := by
  refine and_congr (not_congr String.toList_eq_nil_iff.symm) (forall₂_congr fun c _ => ?_)
  rw [← not_or, ← isLineEnd_iff_eq, Bool.not_eq_true]

theorem isLine_ofList {cs : List Char} (hne : cs ≠ []) (h : Free isLineEnd cs) :
    IsLine (String.ofList cs) := by
  rw [isLine_iff, String.toList_ofList]
  exact ⟨hne, h⟩

theorem isLineEnds_ofList {c : Char} (h : isLineEnd c = true) : IsLineEnds (String.ofList [c]) := by
  rw [isLineEnds_iff, String.toList_ofList]
  exact List.forall_mem_singleton.mpr h

/-- Line ends at the front make no difference. -/
theorem TextOf.lead (h : TextOf lines text) (hends : IsLineEnds ends) :
    TextOf lines (ends ++ text) := by
  cases h with
  | none htext => exact .none (hends.append htext)
  | last hlead hline =>
    rw [← String.append_assoc]
    exact .last (hends.append hlead) hline
  | next hlead hline hends' hne hrest =>
    simp only [← String.append_assoc]
    exact .next (hends.append hlead) hline hends' hne hrest

theorem TextOf.single (h : IsLine line) : TextOf [line] line := by
  rw [← String.empty_append (s := line)]
  exact .last isLineEnds_empty h

/-- A line in front of a text, with line ends between them. -/
theorem TextOf.cons (hline : IsLine line) (hends : IsLineEnds ends) (hne : ends ≠ "")
    (h : TextOf lines text) : TextOf (line :: lines) (line ++ ends ++ text) := by
  rw [← String.empty_append (s := line)]
  exact .next isLineEnds_empty hline hends hne h

/-- What a text is made of are lines. -/
theorem TextOf.isLine (h : TextOf lines text) : ∀ line ∈ lines, IsLine line := by
  induction h with
  | none _ => nofun
  | last _ hline => exact List.forall_mem_singleton.mpr hline
  | next _ hline _ _ _ ih => exact List.forall_mem_cons.mpr ⟨hline, ih⟩

/-- **Lines with line ends between them** are a text made of these lines. -/
theorem textOf_intercalate (hlines : ∀ line ∈ lines, IsLine line) (hends : IsLineEnds ends)
    (hne : ends ≠ "") : TextOf lines (ends.intercalate lines) := by
  induction lines with
  | nil => exact .none isLineEnds_empty
  | cons line lines ih =>
    obtain ⟨hline, hrest⟩ := List.forall_mem_cons.mp hlines
    by_cases hlast : lines = []
    · rw [hlast, String.intercalate_singleton]
      exact .single hline
    · rw [String.intercalate_cons_of_ne_nil hlast]
      exact .cons hline hends hne (ih hrest)

/-! ## 3. Cutting a text into lines

As cutting and being made of the same lines come to the same, the second can be decided. -/

theorem textLines_of_isLine (h : IsLine line) : textLines line = [line] := by
  obtain ⟨hne, hfree⟩ := isLine_iff.mp h
  rw [textLines, runs_of_free hfree hne, List.map_singleton, String.ofList_toList]

theorem textLines_lead (h : IsLineEnds ends) (text : String) :
    textLines (ends ++ text) = textLines text := by
  rw [textLines, textLines, String.toList_append, runs_lead (isLineEnds_iff.mp h)]

/-- A text of line ends has no lines. -/
theorem textLines_of_isLineEnds (h : IsLineEnds ends) : textLines ends = [] := by
  have hlead := textLines_lead h ""
  rwa [String.append_empty] at hlead

/-- **Line ends between two texts** keep their lines apart. -/
theorem textLines_append (h : IsLineEnds ends) (hne : ends ≠ "") (text text' : String) :
    textLines (text ++ ends ++ text') = textLines text ++ textLines text' := by
  have hne' : ends.toList ≠ [] := fun he => hne (String.toList_eq_nil_iff.mp he)
  simp only [textLines, String.toList_append, runs_append (isLineEnds_iff.mp h) hne',
    List.map_append]

/-- **The lines that a text is made of** are those that cutting gives. -/
theorem textLines_of_textOf (h : TextOf lines text) : textLines text = lines := by
  induction h with
  | none hends => exact textLines_of_isLineEnds hends
  | last hlead hline => rw [textLines_lead hlead, textLines_of_isLine hline]
  | next hlead hline hends hne _ ih =>
    rw [textLines_append hends hne, textLines_lead hlead, textLines_of_isLine hline, ih,
      List.singleton_append]

/-- **Every text** is made of its lines. -/
theorem textOf_textLines (text : String) : TextOf (textLines text) text := by
  rw [← String.ofList_toList (s := text)]
  induction text.toList using pieces_induction isLineEnd with
  | free xs hxs =>
    by_cases hne : xs = []
    · subst hne
      exact .none isLineEnds_empty
    · have hline := isLine_ofList hne hxs
      rw [textLines_of_isLine hline]
      exact .single hline
  | cut xs c ys hxs hc ih =>
    -- What stands before the first line end is a line, unless nothing stands there.
    have hends := isLineEnds_ofList hc
    rw [← List.singleton_append, ← List.append_assoc, String.ofList_append, String.ofList_append]
    by_cases hne : xs = []
    · subst hne
      rw [String.ofList_nil, String.empty_append, textLines_lead hends]
      exact ih.lead hends
    · have hline := isLine_ofList hne hxs
      have hends' : String.ofList [c] ≠ "" := by simp
      rw [textLines_append hends hends', textLines_of_isLine hline, List.singleton_append]
      exact .cons hline hends hends' ih

/-- **A text is made of one list of lines**, the one that cutting gives. -/
theorem textOf_iff : TextOf lines text ↔ textLines text = lines :=
  ⟨textLines_of_textOf, fun h => h ▸ textOf_textLines text⟩

instance (lines : List String) (text : String) : Decidable (TextOf lines text) :=
  decidable_of_iff _ textOf_iff.symm

end LintRun

import LintRun.Text.Pieces

/-!
# What cutting at separators gives

A list without separators is one piece (`pieces_of_free`), a first separator ends the first
piece (`pieces_append_break`), so that a list can be gone through from one separator to the
next (`pieces_induction`).  Any separator cuts a list in two (`pieces_append`), and no piece
holds a separator (`free_of_mem_pieces`).

Cutting is a recursion over the characters that changes the piece at the front; what one wants
to say of it goes by separators.  `pieces_induction` makes up for the difference, and the
results about lists that are put together use it and not the recursion.
-/

namespace LintRun

variable {α : Type} {isBreak : α → Bool}

/-- No item of a list is a separator. -/
def Free (isBreak : α → Bool) (xs : List α) : Prop := ∀ x ∈ xs, isBreak x = false

theorem free_nil : Free isBreak [] := fun _ h => absurd h List.not_mem_nil

theorem free_cons {x : α} {xs : List α} :
    Free isBreak (x :: xs) ↔ isBreak x = false ∧ Free isBreak xs := by
  simp [Free]

/-- A separator in front makes an empty piece. -/
theorem pieces_cons_break {c : α} {cs : List α} (h : isBreak c = true) :
    pieces isBreak (c :: cs) = [] :: pieces isBreak cs := by
  simp [pieces, h]

/-- There is always a piece, if only an empty one. -/
theorem pieces_ne_nil (cs : List α) : pieces isBreak cs ≠ [] := by
  cases cs with
  | nil => simp [pieces]
  | cons c cs =>
    simp only [pieces]
    split <;> simp

/-- Anything else in front goes to the first piece. -/
theorem pieces_cons_free {c : α} {cs p : List α} {ps : List (List α)} (h : isBreak c = false)
    (hcs : pieces isBreak cs = p :: ps) : pieces isBreak (c :: cs) = (c :: p) :: ps := by
  simp [pieces, h, hcs]

/-- **A list without separators is one piece.** -/
theorem pieces_of_free {xs : List α} (h : Free isBreak xs) : pieces isBreak xs = [xs] := by
  induction xs with
  | nil => rfl
  | cons x xs ih =>
    obtain ⟨hx, hxs⟩ := free_cons.mp h
    exact pieces_cons_free hx (ih hxs)

/-- **A first separator ends the first piece.** -/
theorem pieces_append_break {xs ys : List α} {c : α} (h : Free isBreak xs)
    (hc : isBreak c = true) : pieces isBreak (xs ++ c :: ys) = xs :: pieces isBreak ys := by
  induction xs with
  | nil => exact pieces_cons_break hc
  | cons x xs ih =>
    obtain ⟨hx, hxs⟩ := free_cons.mp h
    exact pieces_cons_free hx (ih hxs)

/-- **Any separator** cuts a list in two, with the pieces of both. -/
theorem pieces_append (xs ys : List α) {c : α} (hc : isBreak c = true) :
    pieces isBreak (xs ++ c :: ys) = pieces isBreak xs ++ pieces isBreak ys := by
  induction xs with
  | nil => exact pieces_cons_break hc
  | cons x xs ih =>
    cases hx : isBreak x with
    | true =>
      rw [List.cons_append, pieces_cons_break hx, pieces_cons_break hx, ih, List.cons_append]
    | false =>
      obtain ⟨p, ps, hp⟩ := List.exists_cons_of_ne_nil (@pieces_ne_nil _ isBreak xs)
      rw [hp, List.cons_append] at ih
      rw [List.cons_append, pieces_cons_free hx ih, pieces_cons_free hx hp, List.cons_append]

/-- **Induction over what is cut**: a list has no separator, or goes on after its first one. -/
theorem pieces_induction (isBreak : α → Bool) {motive : List α → Prop}
    (free : ∀ xs, Free isBreak xs → motive xs)
    (cut : ∀ xs c ys, Free isBreak xs → isBreak c = true → motive ys → motive (xs ++ c :: ys))
    (cs : List α) : motive cs := by
  have hall (xs : List α) (hxs : Free isBreak xs) : motive (xs ++ cs) := by
    induction cs generalizing xs with
    | nil =>
      rw [List.append_nil]
      exact free xs hxs
    | cons c cs ih =>
      cases hc : isBreak c with
      | true => exact cut xs c cs hxs hc (ih [] free_nil)
      | false =>
        rw [← List.singleton_append, ← List.append_assoc]
        refine ih (xs ++ [c]) fun x hx => ?_
        rcases List.mem_append.mp hx with hx | hx
        · exact hxs x hx
        · rwa [List.mem_singleton.mp hx]
  exact hall [] free_nil

/-- **No piece holds a separator.** -/
theorem free_of_mem_pieces {cs p : List α} (h : p ∈ pieces isBreak cs) : Free isBreak p := by
  induction cs generalizing p with
  | nil =>
    rw [List.mem_singleton.mp h]
    exact free_nil
  | cons c cs ih =>
    cases hc : isBreak c with
    | true =>
      rw [pieces_cons_break hc] at h
      rcases List.mem_cons.mp h with rfl | h
      · exact free_nil
      · exact ih h
    | false =>
      obtain ⟨q, qs, hq⟩ := List.exists_cons_of_ne_nil (@pieces_ne_nil _ isBreak cs)
      rw [pieces_cons_free hc hq] at h
      rcases List.mem_cons.mp h with rfl | h
      · exact free_cons.mpr ⟨hc, ih (hq ▸ List.mem_cons_self)⟩
      · exact ih (hq ▸ List.mem_cons_of_mem _ h)

end LintRun

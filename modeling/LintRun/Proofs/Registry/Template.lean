import LintRun.Proofs.Registry.Construction
import LintRun.Registry.Template
import Mathlib.Data.List.Infix
import Mathlib.Data.List.Forall2

/-!
# What templates are filled in to

A template is made of fixed texts with the placeholder between them (`IsMadeOf`), in one way only
(`existsUnique_isMadeOf`), because the placeholder starts with a character that it holds nowhere
else: where it stands twice, the two do not overlap.  Filling in puts the source root between the
same fixed texts (`fillIn_of_isMadeOf`), whatever the source root looks like.

The tools and the command of a registry are those of its file, filled in once with the source
root of the registry (`expansion_law`).

The work is done on lists of characters, for any mark whose first character does not come again
in it.  Such a mark cannot begin inside a piece without marks and end outside of it
(`not_isPrefix_append`): its first character would have to stand in the piece, and then so
would the mark, or the mark that follows would have it twice.  This one fact gives both that
pieces are found again from what they make (`eq_of_intercalate_eq`) and that replacing from
left to right finds exactly the marks between them (`replaceAll_intercalate`).

Replacing counts the characters of a mark down after the mark is replaced, so the statement
about it is for the state in which nothing is to be skipped, and `replaceAll_skip` leads back
to it.
-/

namespace LintRun

/-! ## 1. Marks in lists of characters

The mark is `c :: cs` here, where `c` is not in `cs`. -/

section Marks

variable {c : Char} {cs value front rest : List Char} {pieces pieces' : List (List Char)}

/-- **No mark starts in a piece without one**, also where the piece ends and a mark follows. -/
theorem not_isPrefix_append (hc : c ∉ cs) (hne : front ≠ []) (hfree : ¬c :: cs <:+: front)
    (rest : List Char) : ¬c :: cs <+: front ++ (c :: cs ++ rest) := by
  obtain ⟨x, front, rfl⟩ := List.exists_cons_of_ne_nil hne
  intro hprefix
  rw [List.cons_append, List.cons_prefix_cons] at hprefix
  obtain ⟨rfl, hprefix⟩ := hprefix
  rcases List.prefix_or_prefix_of_prefix hprefix (List.prefix_append front _) with hin | hbeyond
  · exact hfree (List.cons_prefix_cons.mpr ⟨rfl, hin⟩).isInfix
  · -- The mark that starts in the piece would reach into the one that follows.
    obtain ⟨beyond, rfl⟩ := hbeyond
    rw [List.prefix_append_right_inj] at hprefix
    cases beyond with
    | nil =>
      rw [List.append_nil] at hfree
      exact hfree (List.infix_refl _)
    | cons y beyond =>
      rw [List.cons_append, List.cons_prefix_cons] at hprefix
      obtain ⟨rfl, -⟩ := hprefix
      exact hc (List.mem_append_right front List.mem_cons_self)

/-- A piece in front of the first mark is found in one way only. -/
theorem eq_of_append_mark_eq (hc : c ∉ cs) {front' rest' : List Char}
    (hfree : ¬c :: cs <:+: front) (hfree' : ¬c :: cs <:+: front')
    (h : front ++ (c :: cs ++ rest) = front' ++ (c :: cs ++ rest')) :
    front = front' ∧ rest = rest' := by
  -- If one piece were longer, the mark after the other would start in it.
  have hnone {more rest rest' : List Char} (hmore : ¬c :: cs <:+: more)
      (heq : c :: cs ++ rest = more ++ (c :: cs ++ rest')) : more = [] := by
    by_contra hne
    exact not_isPrefix_append hc hne hmore rest' (heq ▸ List.prefix_append _ _)
  have hsame : front = front' := by
    rcases List.append_eq_append_iff.mp h with ⟨more, rfl, heq⟩ | ⟨more, rfl, heq⟩
    · rw [hnone (fun hin => hfree' (hin.trans (List.suffix_append front more).isInfix)) heq,
        List.append_nil]
    · rw [hnone (fun hin => hfree (hin.trans (List.suffix_append front' more).isInfix)) heq,
        List.append_nil]
  subst hsame
  exact ⟨rfl, List.append_cancel_left (List.append_cancel_left h)⟩

/-- **Pieces without a mark** are told from what they make with marks between them. -/
theorem eq_of_intercalate_eq (hc : c ∉ cs) (hne : pieces ≠ []) (hne' : pieces' ≠ [])
    (hfree : ∀ p ∈ pieces, ¬c :: cs <:+: p) (hfree' : ∀ p ∈ pieces', ¬c :: cs <:+: p)
    (h : (c :: cs).intercalate pieces = (c :: cs).intercalate pieces') : pieces = pieces' := by
  -- A single piece without a mark is not several pieces with marks between them.
  have hsingle {p q : List Char} {qs : List (List Char)} (hp : ¬c :: cs <:+: p) (hqs : qs ≠ [])
      (heq : p = (c :: cs).intercalate (q :: qs)) : False := by
    rw [List.intercalate_cons_of_ne_nil hqs] at heq
    exact hp ⟨q, _, heq.symm⟩
  induction pieces generalizing pieces' with
  | nil => exact absurd rfl hne
  | cons p ps ih =>
    obtain ⟨p', ps', rfl⟩ := List.exists_cons_of_ne_nil hne'
    obtain ⟨hp, hps⟩ := List.forall_mem_cons.mp hfree
    obtain ⟨hp', hps'⟩ := List.forall_mem_cons.mp hfree'
    by_cases hlast : ps = [] <;> by_cases hlast' : ps' = []
    · subst hlast hlast'
      rw [List.intercalate_singleton, List.intercalate_singleton] at h
      rw [h]
    · subst hlast
      rw [List.intercalate_singleton] at h
      exact (hsingle hp hlast' h).elim
    · subst hlast'
      rw [List.intercalate_singleton] at h
      exact (hsingle hp' hlast h.symm).elim
    · rw [List.intercalate_cons_of_ne_nil hlast, List.intercalate_cons_of_ne_nil hlast',
        List.append_assoc, List.append_assoc] at h
      obtain ⟨rfl, hrest⟩ := eq_of_append_mark_eq hc hp hp' h
      rw [ih hlast hlast' hps hps' hrest]

theorem intercalate_cons_cons_left (mark : List Char) (x : Char) (p : List Char)
    (ps : List (List Char)) :
    mark.intercalate ((x :: p) :: ps) = x :: mark.intercalate (p :: ps) := by
  cases ps with
  | nil => simp only [List.intercalate_singleton]
  | cons q qs => simp only [List.intercalate_cons_cons, List.cons_append]

theorem isPrefix_intercalate (mark p : List Char) (ps : List (List Char)) :
    p <+: mark.intercalate (p :: ps) := by
  cases ps with
  | nil =>
    rw [List.intercalate_singleton]
  | cons q qs =>
    rw [List.intercalate_cons_cons, List.append_assoc]
    exact List.prefix_append _ _

/-- **Any list** is made of pieces without a mark. -/
theorem exists_intercalate_eq {mark : List Char} (hmark : mark ≠ []) (text : List Char) :
    ∃ pieces, pieces ≠ [] ∧ (∀ p ∈ pieces, ¬mark <:+: p) ∧ mark.intercalate pieces = text := by
  have hempty : ¬mark <:+: [] := fun hin => hmark (List.infix_nil.mp hin)
  induction hlength : text.length using Nat.strong_induction_on generalizing text with
  | _ n ih =>
    subst hlength
    cases text with
    | nil => exact ⟨[[]], List.cons_ne_nil _ _, List.forall_mem_singleton.mpr hempty, rfl⟩
    | cons x text =>
      by_cases hprefix : mark <+: x :: text
      · -- A mark stands at the front: before it is an empty piece.
        obtain ⟨rest, hrest⟩ := hprefix
        have hshorter : rest.length < (x :: text).length := by
          rw [← hrest, List.length_append]
          exact Nat.lt_add_of_pos_left (List.length_pos_of_ne_nil hmark)
        obtain ⟨ps, hne, hfree, hps⟩ := ih _ hshorter rest rfl
        refine ⟨[] :: ps, List.cons_ne_nil _ _, List.forall_mem_cons.mpr ⟨hempty, hfree⟩, ?_⟩
        rw [List.intercalate_cons_of_ne_nil hne, hps, List.nil_append, hrest]
      · -- None stands there: the character belongs to the first piece of the rest.
        obtain ⟨ps, hne, hfree, hps⟩ := ih _ (Nat.lt_succ_self _) text rfl
        obtain ⟨p, ps, rfl⟩ := List.exists_cons_of_ne_nil hne
        obtain ⟨hp, hrest⟩ := List.forall_mem_cons.mp hfree
        have hcons : mark.intercalate ((x :: p) :: ps) = x :: text := by
          rw [intercalate_cons_cons_left, hps]
        refine ⟨(x :: p) :: ps, List.cons_ne_nil _ _, List.forall_mem_cons.mpr ⟨?_, hrest⟩, hcons⟩
        rw [List.infix_cons_iff, not_or]
        exact ⟨fun hin => hprefix (hin.trans (hcons ▸ isPrefix_intercalate mark _ ps)), hp⟩

/-! ## 2. Replacing

One step of the replacement for each of the two things that can stand in front: a mark, and a
character at which no mark starts. -/

/-- What is to be skipped is skipped. -/
theorem replaceAll_skip (mark value skipped rest : List Char) :
    replaceAll mark value skipped.length (skipped ++ rest) = replaceAll mark value 0 rest := by
  induction skipped with
  | nil => rfl
  | cons x skipped ih => exact ih

/-- **A mark** is replaced, and what comes after it looked at anew. -/
theorem replaceAll_mark (value rest : List Char) :
    replaceAll (c :: cs) value 0 (c :: cs ++ rest) =
      value ++ replaceAll (c :: cs) value 0 rest := by
  have hprefix : (c :: cs).isPrefixOf (c :: (cs ++ rest)) = true :=
    List.isPrefixOf_iff_prefix.mpr (List.prefix_append (c :: cs) rest)
  rw [List.cons_append, replaceAll, if_pos hprefix]
  exact congrArg (value ++ ·) (replaceAll_skip (c :: cs) value cs rest)

/-- **A character at which no mark starts** stays. -/
theorem replaceAll_cons_of_not_isPrefix {mark : List Char} {x : Char}
    (h : ¬mark <+: x :: rest) :
    replaceAll mark value 0 (x :: rest) = x :: replaceAll mark value 0 rest := by
  rw [replaceAll, if_neg (mt List.isPrefixOf_iff_prefix.mp h)]

/-- A text without a mark stays as it is. -/
theorem replaceAll_of_not_isInfix {mark : List Char} (h : ¬mark <:+: front) :
    replaceAll mark value 0 front = front := by
  induction front with
  | nil => rfl
  | cons x front ih =>
    rw [List.infix_cons_iff, not_or] at h
    rw [replaceAll_cons_of_not_isPrefix h.1, ih h.2]

/-- **A piece without a mark** stays as it is, and the mark after it is replaced. -/
theorem replaceAll_append_mark (hc : c ∉ cs) (h : ¬c :: cs <:+: front) (value rest : List Char) :
    replaceAll (c :: cs) value 0 (front ++ (c :: cs ++ rest)) =
      front ++ (value ++ replaceAll (c :: cs) value 0 rest) := by
  induction front with
  | nil => exact replaceAll_mark value rest
  | cons x front ih =>
    have hprefix := not_isPrefix_append hc (List.cons_ne_nil x front) h rest
    rw [List.cons_append] at hprefix
    rw [List.infix_cons_iff, not_or] at h
    rw [List.cons_append, replaceAll_cons_of_not_isPrefix hprefix, ih h.2, List.cons_append]

/-- **Replacing** puts the value where the marks between the pieces are, and nowhere else. -/
theorem replaceAll_intercalate (hc : c ∉ cs) (hne : pieces ≠ [])
    (hfree : ∀ p ∈ pieces, ¬c :: cs <:+: p) (value : List Char) :
    replaceAll (c :: cs) value 0 ((c :: cs).intercalate pieces) = value.intercalate pieces := by
  induction pieces with
  | nil => exact absurd rfl hne
  | cons p ps ih =>
    obtain ⟨hp, hps⟩ := List.forall_mem_cons.mp hfree
    by_cases hlast : ps = []
    · rw [hlast, List.intercalate_singleton, List.intercalate_singleton,
        replaceAll_of_not_isInfix hp]
    · rw [List.intercalate_cons_of_ne_nil hlast, List.intercalate_cons_of_ne_nil hlast,
        List.append_assoc, List.append_assoc, replaceAll_append_mark hc hp, ih hlast hps]

end Marks

/-! ## 3. Templates

The placeholder is a mark of the kind treated above, so all that was said of marks holds of it.
-/

/-- **What a template is made of**: one fixed text or several, none with the placeholder in it,
and the placeholder between any two that follow each other. -/
structure IsMadeOf (template : String) (fixed : List String) : Prop where
  nonempty : fixed ≠ []
  free : ∀ text ∈ fixed, ¬placeholder.toList <:+: text.toList
  joined : placeholder.intercalate fixed = template

/-- The placeholder starts with a character that it does not hold again. -/
theorem exists_placeholder_eq : ∃ c cs, placeholder.toList = c :: cs ∧ c ∉ cs :=
  ⟨_, _, rfl, by decide⟩

variable {root template text : String} {fixed fixed' : List String}

theorem IsMadeOf.toList_eq (h : IsMadeOf template fixed) :
    template.toList = placeholder.toList.intercalate (fixed.map String.toList) := by
  rw [← h.joined, String.toList_intercalate]

theorem IsMadeOf.free_toList (h : IsMadeOf template fixed) :
    ∀ p ∈ fixed.map String.toList, ¬placeholder.toList <:+: p :=
  List.forall_mem_map.mpr h.free

/-- **Filling in** puts the source root where the placeholder stands. -/
theorem fillIn_of_isMadeOf (h : IsMadeOf template fixed) (root : String) :
    fillIn root template = root.intercalate fixed := by
  have hne : fixed.map String.toList ≠ [] := fun hnil => h.nonempty (List.map_eq_nil_iff.mp hnil)
  have hfree := h.free_toList
  obtain ⟨c, cs, hmark, hc⟩ := exists_placeholder_eq
  rw [fillIn, h.toList_eq]
  rw [hmark] at hfree ⊢
  rw [replaceAll_intercalate hc hne hfree, ← String.toList_intercalate, String.ofList_toList]

/-- **A template is made of fixed texts** in one way. -/
theorem existsUnique_isMadeOf (template : String) : ∃! fixed, IsMadeOf template fixed := by
  obtain ⟨c, cs, hmark, hc⟩ := exists_placeholder_eq
  obtain ⟨pieces, hne, hfree, hpieces⟩ :=
    exists_intercalate_eq (hmark ▸ List.cons_ne_nil c cs) template.toList
  have htexts : (pieces.map String.ofList).map String.toList = pieces := by
    simp only [List.map_map, Function.comp_def, String.toList_ofList, List.map_id']
  refine ⟨pieces.map String.ofList, ⟨mt List.map_eq_nil_iff.mp hne, ?_, ?_⟩, fun fixed h => ?_⟩
  · refine List.forall_mem_map.mpr fun p hp => ?_
    rw [String.toList_ofList]
    exact hfree p hp
  · rw [← String.toList_inj, String.toList_intercalate, htexts, hpieces]
  · have hfree' := h.free_toList
    have heq := hpieces.trans h.toList_eq
    rw [hmark] at hfree hfree' heq
    refine List.map_injective_iff.mpr (fun _ _ => String.toList_injective) ?_
    rw [htexts]
    exact (eq_of_intercalate_eq hc hne (mt List.map_eq_nil_iff.mp h.nonempty) hfree hfree' heq).symm

/-- **A template filled in**: its fixed texts with the source root between them. -/
def FilledIn (root template text : String) : Prop :=
  ∃ fixed, IsMadeOf template fixed ∧ root.intercalate fixed = text

/-- Every template has a text that it is filled in to, since every template is made of
something. -/
theorem filledIn_fillIn (root template : String) :
    FilledIn root template (fillIn root template) := by
  obtain ⟨fixed, h, -⟩ := existsUnique_isMadeOf template
  exact ⟨fixed, h, (fillIn_of_isMadeOf h root).symm⟩

/-! ## 4. Tools and commands

Which texts of a tool are templates is a list of fields; that the others stay as they are is
part of what is stated. -/

section Each

variable {α β : Type} {R : α → β → Prop} {f : α → β}

theorem forall₂_map_right (h : ∀ a, R a (f a)) (as : List α) : List.Forall₂ R as (as.map f) :=
  List.forall₂_map_right_iff.mpr (List.forall₂_same.mpr fun a _ => h a)

theorem rel_map_right (h : ∀ a, R a (f a)) (o : Option α) : Option.Rel R o (o.map f) := by
  cases o with
  | none => exact .none
  | some a => exact .some (h a)

end Each

/-- **A tool filled in**: the program, each argument in its place, the value of each variable
and the directory, if there is one.  All else stays as it is. -/
structure Tool.IsFilledIn (root : String) (t t' : Tool) : Prop where
  program : FilledIn root t.program t'.program
  arguments : List.Forall₂ (FilledIn root) t.arguments t'.arguments
  fixArguments : List.Forall₂ (FilledIn root) t.fixArguments t'.fixArguments
  checkArguments : List.Forall₂ (FilledIn root) t.checkArguments t'.checkArguments
  environment : List.Forall₂ (fun e e' => e'.1 = e.1 ∧ FilledIn root e.2 e'.2)
    t.environment.toList t'.environment.toList
  directory : Option.Rel (FilledIn root) t.directory t'.directory
  capturesErrors : t'.capturesErrors = t.capturesErrors
  needsFormatCode : t'.needsFormatCode = t.needsFormatCode

/-- **A command filled in**: the program and each argument in its place. -/
structure ChangeCommand.IsFilledIn (root : String) (c c' : ChangeCommand) : Prop where
  program : FilledIn root c.program c'.program
  arguments : List.Forall₂ (FilledIn root) c.arguments c'.arguments

theorem Tool.isFilledIn_fillIn (root : String) (t : Tool) : t.IsFilledIn root (t.fillIn root) where
  program := filledIn_fillIn root t.program
  arguments := forall₂_map_right (filledIn_fillIn root) _
  fixArguments := forall₂_map_right (filledIn_fillIn root) _
  checkArguments := forall₂_map_right (filledIn_fillIn root) _
  environment := forall₂_map_right (fun e => ⟨rfl, filledIn_fillIn root e.2⟩) _
  directory := rel_map_right (filledIn_fillIn root) _
  capturesErrors := rfl
  needsFormatCode := rfl

theorem ChangeCommand.isFilledIn_fillIn (root : String) (c : ChangeCommand) :
    c.IsFilledIn root (c.fillIn root) where
  program := filledIn_fillIn root c.program
  arguments := forall₂_map_right (filledIn_fillIn root) _

/-! ## 5. Registries

Filling in happens when the entry is read, with the normal form of the source root as it is
displayed. -/

/-- **A category of an entry** has the tool and the fixer of the entry, filled in. -/
theorem Category.IsReadFrom.isFilledIn {c : Category} {sourceRoot : Path} {e : CategoryEntry}
    (h : c.IsReadFrom sourceRoot e) :
    e.tool.IsFilledIn sourceRoot.display c.tool ∧
      Option.Rel (Tool.IsFilledIn sourceRoot.display) e.fixer c.fixer := by
  rw [h.tool, h.fixer]
  exact ⟨e.tool.isFilledIn_fillIn _, rel_map_right (Tool.isFilledIn_fillIn _) _⟩

/-- **The law of templates.**  Every template is made of fixed texts with the placeholder between
them, in one way, and filled in it is the same fixed texts with the source root between them,
whatever the source root is, itself a placeholder or a part of one.  This is done to the program,
every argument, every value of a variable and the directory of a tool, and to nothing else, and
to the program and every argument of the command that lists changed files.  In a registry every
tool, every fixer and the command are those of its file, filled in with the source root in
normal form. -/
theorem expansion_law (root : String) :
    (∀ template, ∃! fixed, IsMadeOf template fixed) ∧
    (∀ template fixed, IsMadeOf template fixed →
      fillIn root template = root.intercalate fixed) ∧
    (∀ t : Tool, t.IsFilledIn root (t.fillIn root)) ∧
    (∀ c : ChangeCommand, c.IsFilledIn root (c.fillIn root)) ∧
    ∀ sourceRoot file r, Registry.ofFile sourceRoot file = .ok r →
      r.sourceRoot = sourceRoot.normalize ∧
      List.Forall₂ (fun e c => e.tool.IsFilledIn r.sourceRoot.display c.tool ∧
        Option.Rel (Tool.IsFilledIn r.sourceRoot.display) e.fixer c.fixer)
        file.categories r.categories ∧
      file.vcs.IsFilledIn r.sourceRoot.display r.vcs := by
  refine ⟨existsUnique_isMadeOf, fun template fixed h => fillIn_of_isMadeOf h root,
    Tool.isFilledIn_fillIn root, ChangeCommand.isFilledIn_fillIn root, ?_⟩
  intro sourceRoot file r hr
  have hempty : (([] : List CategoryEntry).flatMap CategoryEntry.names).Nodup := .nil
  obtain ⟨hcategories, hroot, -, hvcs⟩ := Registry.ofFile_eq_ok_iff.mp hr
  obtain ⟨-, hall⟩ := (Registry.categoriesOf_of_eq_ok_iff hempty).mp hcategories
  rw [hroot]
  refine ⟨rfl, hall.imp fun e c hc => ?_, ?_⟩
  · have hspec := Registry.category_spec sourceRoot.normalize e
    rw [hc] at hspec
    exact hspec.2.isFilledIn
  · rw [hvcs]
    exact file.vcs.isFilledIn_fillIn _

namespace Example

/-- A template in which what is put in completes a placeholder. -/
def nested : String := "\x7bsource_\x7bsource_root\x7d\x7bsource_root\x7d/bin"

/-- Scripts with a tool below the source root. -/
def templates : RegistryFile where
  categories := [
    { key := "js", roots := ["lib"], extensions := ["js"]
      tool := { program := "\x7bsource_root\x7d/bin/jslint", directory := some "lib" } }]

/-- What is put in completes a placeholder, and is not looked at again; and a source root may
have the placeholder for a name. -/
theorem expansion_law_nested :
    IsMadeOf nested ["\x7bsource_", "", "/bin"] ∧
    fillIn "root\x7d" nested = "\x7bsource_root\x7droot\x7d/bin" ∧
    ∃ r c, Registry.ofFile (.ofString "/src/./\x7bsource_root\x7d") templates = .ok r ∧
      r.categories = [c] ∧
      FilledIn "/src/\x7bsource_root\x7d" "\x7bsource_root\x7d/bin/jslint" c.tool.program ∧
      c.tool.program = "/src/\x7bsource_root\x7d/bin/jslint" := by
  have hnested : IsMadeOf nested ["\x7bsource_", "", "/bin"] :=
    ⟨List.cons_ne_nil _ _, by decide, by decide⟩
  obtain ⟨-, hfill, -, -, hregistry⟩ := expansion_law "root\x7d"
  obtain ⟨r, hr⟩ : ∃ r, Registry.ofFile (.ofString "/src/./\x7bsource_root\x7d") templates =
      .ok r := ⟨_, rfl⟩
  obtain ⟨hroot, hcategories, -⟩ := hregistry _ _ r hr
  have hshown : r.sourceRoot.display = "/src/\x7bsource_root\x7d" := by
    rw [hroot]
    decide +kernel
  rw [hshown] at hcategories
  obtain ⟨c, cs, ⟨htool, -⟩, hnone, hcs⟩ := List.forall₂_cons_left_iff.mp hcategories
  cases List.forall₂_nil_left_iff.mp hnone
  refine ⟨hnested, hfill _ _ hnested, r, c, hr, hcs, htool.program, ?_⟩
  cases hr
  cases hcs
  decide +kernel

end Example

end LintRun

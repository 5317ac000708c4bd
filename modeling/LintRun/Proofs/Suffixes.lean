import LintRun.Proofs.Path.Extend
import LintRun.Proofs.Text.Utf8
import LintRun.Suffixes
import Mathlib.Data.List.TakeWhile

/-!
# Names that end in an extension

An extension is written with any number of dots in front of it, and means what is left without
them (`Bare`).  A path is owned exactly if it has a file name, the bytes of the name end in a dot
and an extension, and the name is text (`owns_iff`).  The last is a condition of its own: bytes
that are no text may end in an extension as well (`latin_name_not_owned`).

Where a file lies has nothing to do with it, nor has how the extensions are written and listed
(`owning_law`).

The program drops the dots of an extension, puts one in front again, and compares the end of
the name with it, as texts.  The name of a file is bytes; it is compared only if it is text,
and then the comparison of texts is one of bytes, since an encoding ends in another exactly if
the texts do.  An extension of dots alone has nothing left of it, so it would own every name
that ends in a dot; a category cannot have it, and nothing here depends on that.
-/

namespace LintRun

/-! ## 1. Extensions

What is left without the dots is unique, also where nothing is left. -/

/-- What is left of an extension without the dots it starts with. -/
def Bare (ext bare : String) : Prop :=
  bare.toList.head? ≠ some '.' ∧ ∃ dots, ext.toList = List.replicate dots '.' ++ bare.toList

/-- Dots in front of an extension are dropped, however many. -/
theorem bareExtension_of_dots {ext : String} {dots : Nat} {cs : List Char}
    (h : ext.toList = List.replicate dots '.' ++ cs) :
    bareExtension ext = String.ofList (cs.dropWhile (· == '.')) := by
  rw [bareExtension, h, List.dropWhile_append_of_pos fun c hc => ?_]
  rw [List.eq_of_mem_replicate hc]
  rfl

/-- **An extension without its dots** is what it is written as behind some dots. -/
theorem bare_iff {ext bare : String} : Bare ext bare ↔ bareExtension ext = bare := by
  constructor
  · rintro ⟨hhead, dots, hext⟩
    rw [bareExtension_of_dots hext, ← String.toList_inj, String.toList_ofList]
    cases hbare : bare.toList with
    | nil => rfl
    | cons c cs =>
      rw [hbare, List.head?_cons, Ne, Option.some.injEq] at hhead
      rw [List.dropWhile_cons, if_neg (by simpa using hhead)]
  · -- What is dropped is a row of dots, and what is left does not start with one.
    rintro rfl
    have hdots : ext.toList.takeWhile (· == '.') =
        List.replicate (ext.toList.takeWhile (· == '.')).length '.' :=
      List.eq_replicate_iff.mpr ⟨rfl, fun c hc => by simpa using List.mem_takeWhile_imp hc⟩
    rw [Bare, bareExtension, String.toList_ofList]
    refine ⟨fun hhead => ?_, (ext.toList.takeWhile (· == '.')).length, ?_⟩
    · have hother := List.head?_dropWhile_not (· == '.') ext.toList
      rw [hhead] at hother
      exact absurd hother (by decide)
    · rw [← hdots]
      exact List.takeWhile_append_dropWhile.symm

/-! ## 2. Names

The condition on the name is one on its last bytes, and one on all of its bytes. -/

/-- The bytes of a name end in a dot and an extension without its dots. -/
def EndsIn (exts : List String) (n : Name) : Prop :=
  ∃ ext ∈ exts, ∃ bare, Bare ext bare ∧ Path.dot :: Utf8.encode bare <:+ n

/-- It is enough to know what is left of the extensions. -/
theorem endsIn_iff {exts : List String} {n : Name} : EndsIn exts n ↔
    ∃ bare, (∃ ext ∈ exts, Bare ext bare) ∧ Path.dot :: Utf8.encode bare <:+ n := by
  constructor
  · rintro ⟨ext, hext, bare, hbare, hsuffix⟩
    exact ⟨bare, ⟨ext, hext, hbare⟩, hsuffix⟩
  · rintro ⟨bare, ⟨ext, hext, hbare⟩, hsuffix⟩
    exact ⟨ext, hext, bare, hbare, hsuffix⟩

/-- A name that is text. -/
def IsUtf8 (n : Name) : Prop := ∃ text, n = Utf8.encode text

theorem isUtf8_iff {n : Name} : IsUtf8 n ↔ Utf8.isValid n = true := by
  constructor
  · rintro ⟨text, rfl⟩
    exact Utf8.isValid_encode text
  · intro h
    exact ⟨Utf8.decodeLossy n, (Utf8.encode_decodeLossy h).symm⟩

namespace Suffixes

variable {exts exts' : List String} {n : Name} {p : Path}

/-- **A name is owned** if it ends in an extension, and is text. -/
theorem ownsName_iff : (ofExtensions exts).ownsName n = true ↔ EndsIn exts n ∧ IsUtf8 n := by
  rw [ownsName, Bool.and_eq_true, ← isUtf8_iff, and_comm, ofExtensions]
  refine and_congr_left fun _ => ?_
  simp only [List.any_map, List.any_eq_true, Function.comp_apply, List.isSuffixOf_iff_suffix,
    EndsIn, bare_iff, exists_eq_left', ending]

/-- **What is owned**: paths with a file name that is text and ends in an extension. -/
theorem owns_iff : (ofExtensions exts).owns p = true ↔
    ∃ n, p.fileName? = some n ∧ EndsIn exts n ∧ IsUtf8 n := by
  unfold owns
  cases p.fileName? with
  | none => simp
  | some n => simp [ownsName_iff]

/-- **Only what is left of the extensions** without their dots matters. -/
theorem owns_congr
    (h : ∀ bare, (∃ ext ∈ exts', Bare ext bare) ↔ ∃ ext ∈ exts, Bare ext bare) :
    (ofExtensions exts').owns p = (ofExtensions exts).owns p := by
  have hends (n : Name) : EndsIn exts' n ↔ EndsIn exts n := by
    simp only [endsIn_iff, h]
  rw [Bool.eq_iff_iff, owns_iff, owns_iff]
  simp only [hends]

end Suffixes

/-! ## 3. Where a file lies

A file name is the last part of a path if that is a name. -/

namespace Path

variable {n : Name}

theorem fileName?_of_inner {p : Path} {qs : List Part} (h : p.inner = qs ++ [.name n]) :
    p.fileName? = some n := by
  rw [fileName?, parts_eq, h, ← List.append_assoc, List.getLast?_concat]

/-- **The file name of a path** is what stands behind its last slash. -/
theorem fileName?_slash (dir : List UInt8) (h : Plain n) :
    (⟨dir ++ slash :: n⟩ : Path).fileName? = some n :=
  fileName?_of_inner (by rw [inner_slash, inner_of_plain h])

theorem fileName?_of_plain (h : Plain n) : (⟨n⟩ : Path).fileName? = some n :=
  fileName?_of_inner (by rw [inner_of_plain h, List.nil_append])

end Path

/-- **Which paths are owned.**  A path is owned exactly if it has a file name, the bytes of the
name end in a dot and one of the extensions without its dots, and the name is text.  Without the
last condition this is so of a path exactly if its name is text or does not end like that.  The
directories of a path do not matter, and of the extensions only what is left of them without their
dots, in any order and as often as one likes. -/
theorem owning_law (exts : List String) (p : Path) :
    ((Suffixes.ofExtensions exts).owns p = true ↔
      ∃ n, p.fileName? = some n ∧ EndsIn exts n ∧ IsUtf8 n) ∧
    (((Suffixes.ofExtensions exts).owns p = true ↔ ∃ n, p.fileName? = some n ∧ EndsIn exts n) ↔
      ∀ n, p.fileName? = some n → EndsIn exts n → IsUtf8 n) ∧
    (∀ (dir : List UInt8) (n : Name), Path.Plain n →
      (Suffixes.ofExtensions exts).owns ⟨dir ++ Path.slash :: n⟩ =
        (Suffixes.ofExtensions exts).owns ⟨n⟩) ∧
    ∀ exts' : List String,
      (∀ bare, (∃ ext ∈ exts', Bare ext bare) ↔ ∃ ext ∈ exts, Bare ext bare) →
        (Suffixes.ofExtensions exts').owns p = (Suffixes.ofExtensions exts).owns p := by
  refine ⟨Suffixes.owns_iff, ?_, fun dir n hn => ?_, fun exts' h => Suffixes.owns_congr h⟩
  · rw [Suffixes.owns_iff]
    constructor
    · intro h n hname hends
      obtain ⟨m, hm, -, htext⟩ := h.mpr ⟨n, hname, hends⟩
      rwa [← Option.some.inj (hm.symm.trans hname)]
    · intro h
      refine exists_congr fun n => and_congr_right fun hname => ?_
      exact and_iff_left_of_imp fun hends => h n hname hends
  · rw [Suffixes.owns, Suffixes.owns, Path.fileName?_slash dir hn, Path.fileName?_of_plain hn]

namespace Example

/-- The bytes of `café.js`, its accented letter written as one byte. -/
def latinFile : Name := Utf8.encode "caf" ++ [0xE9] ++ Utf8.encode ".js"

/-- An extension with a dot in the middle, and the same with more dots in front of it. -/
theorem owning_law_declarations :
    (Suffixes.ofExtensions ["d.ts", "js"]).owns (.ofString "/src/a.d.ts") = true ∧
    (Suffixes.ofExtensions ["js", "..d.ts", ".js"]).owns (.ofString "a.d.ts") = true := by
  obtain ⟨howns, -, hdirectory, hcongr⟩ := owning_law ["d.ts", "js"] (.ofString "a.d.ts")
  have hplain : Path.Plain (Utf8.encode "a.d.ts") :=
    ⟨by decide +kernel, by decide +kernel, by decide +kernel, by unfold Free; decide +kernel⟩
  have hplainly : (Suffixes.ofExtensions ["d.ts", "js"]).owns (.ofString "a.d.ts") = true :=
    howns.mpr ⟨Utf8.encode "a.d.ts", by decide +kernel, ⟨"d.ts", by decide, "d.ts",
      bare_iff.mpr (by decide +kernel), by decide +kernel⟩, "a.d.ts", rfl⟩
  refine ⟨(hdirectory (Utf8.encode "/src") _ hplain).trans hplainly, ?_⟩
  rw [hcongr ["js", "..d.ts", ".js"] fun bare => ?_, hplainly]
  have hdots : ["js", "..d.ts", ".js"].map bareExtension = ["js", "d.ts", "js"] := by decide +kernel
  have hbare : ["d.ts", "js"].map bareExtension = ["d.ts", "js"] := by decide +kernel
  simp only [bare_iff, ← List.mem_map, hdots, hbare]
  grind

/-- The name ends in the bytes of `.js` and is not owned. -/
theorem latin_name_not_owned :
    (⟨Utf8.encode "/src/" ++ latinFile⟩ : Path).fileName? = some latinFile ∧
    EndsIn ["js"] latinFile ∧
    (Suffixes.ofExtensions ["js"]).owns ⟨Utf8.encode "/src/" ++ latinFile⟩ = false := by
  refine ⟨by decide +kernel, ⟨"js", List.mem_cons_self, "js", bare_iff.mpr (by decide +kernel), ?_⟩,
    by decide +kernel⟩
  exact List.suffix_append _ _

end Example

end LintRun

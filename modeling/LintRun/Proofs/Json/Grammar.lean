import LintRun.Json.Basic
import LintRun.Proofs.Text.Reader
import Mathlib.Data.List.Forall2
import Mathlib.Data.Nat.Digits.Defs

/-!
# The grammar of JSON documents

`Json.Denotes` says which texts denote a value: strings with any of the escapes, whole numbers,
arrays and objects, with blanks wherever they may stand.  It knows nothing of how a document is
laid out.  As there are no other values, the words `true`, `false` and `null` denote nothing here,
and neither do numbers with a fraction or an exponent.

The layout of `Json.text` is one of these texts (`denotes_text`), whatever characters the
strings hold.

The grammar is a family of relations between characters and values, from the characters of a
string up to documents.  `Spaced`, `MemberText` and `Enclosed` have the relation for the values
inside them as a parameter, and `Denotes` ties the knot.

That the layout is a text of its value goes by induction over values, with the depth of the
layout generalized.  The layout of a list of items is written behind its first item, and so is
the statement about it, in which the first item comes with any blanks around it
(`separated_itemsText`); line ends and the blanks of the margin are nothing but blanks.
-/

namespace LintRun.Json

open Reader (Separated)

/-! ## 1. The grammar

Where the standard leaves a choice, the grammar has all of it: a character may stand for
itself, or be written by a letter, by its number, or by two numbers. -/

/-- A blank between the parts of a document. -/
def isGap (c : Char) : Bool := c == ' ' || c == '\t' || c == '\n' || c == '\r'

/-- Blanks only. -/
def IsGap (s : List Char) : Prop := ∀ c ∈ s, isGap c = true

/-- A text of a value between blanks. -/
inductive Spaced {α : Type} (G : List Char → α → Prop) : List Char → α → Prop
  | mk {before s after : List Char} {a : α} (hbefore : IsGap before) (h : G s a)
      (hafter : IsGap after) : Spaced G (before ++ s ++ after) a

/-- A character that may stand for itself in a string. -/
def isPlain (c : Char) : Bool := c != '"' && c != '\\' && decide (0x20 ≤ c.toNat)

/-- What a letter after a backslash stands for. -/
def shorthands : List (Char × Char) := [
  ('"', '"'), ('\\', '\\'), ('/', '/'), ('b', '\x08'), ('f', '\x0C'), ('n', '\n'), ('r', '\r'),
  ('t', '\t')]

/-- Four hexadecimal digits that write a number. -/
structure HexText (s : List Char) (n : Nat) : Prop where
  length : s.length = 4
  digits : ∀ c ∈ s, isDigitOf 16 c = true
  value : numberOf 16 s = n

/-- The first half of a pair that stands for a character above `U+FFFF`. -/
def IsHigh (n : Nat) : Prop := 0xD800 ≤ n ∧ n < 0xDC00

/-- The second half. -/
def IsLow (n : Nat) : Prop := 0xDC00 ≤ n ∧ n < 0xE000

/-- The character that a pair stands for. -/
def paired (high low : Nat) : Char :=
  Char.ofNat (0x10000 + (high - 0xD800) * 0x400 + (low - 0xDC00))

/-- The texts of a character in a string. -/
inductive CharText : List Char → Char → Prop
  | plain {c : Char} (h : isPlain c = true) : CharText [c] c
  | short {letter c : Char} (h : shorthands.lookup letter = some c) : CharText ['\\', letter] c
  | unit {s : List Char} {n : Nat} (h : HexText s n) (hn : n.isValidChar) :
      CharText ('\\' :: 'u' :: s) (Char.ofNat n)
  | pair {s t : List Char} {high low : Nat} (hs : HexText s high) (ht : HexText t low)
      (hhigh : IsHigh high) (hlow : IsLow low) :
      CharText ('\\' :: 'u' :: (s ++ '\\' :: 'u' :: t)) (paired high low)

/-- The texts of a string. -/
inductive StringText : List Char → String → Prop
  | mk {texts : List (List Char)} {t : String} (h : List.Forall₂ CharText texts t.toList) :
      StringText ('"' :: (texts.flatten ++ ['"'])) t

/-- Digits of a whole number, without a needless zero in front. -/
structure IsWhole (ds : List Char) : Prop where
  ne_nil : ds ≠ []
  digits : ∀ c ∈ ds, isDecimal c = true
  lead : ds.head? = some '0' → ds = ['0']

/-- The texts of a whole number. -/
inductive NumberText : List Char → Int → Prop
  | plain {ds : List Char} (h : IsWhole ds) : NumberText ds (numberOf 10 ds)
  | minus {ds : List Char} (h : IsWhole ds) : NumberText ('-' :: ds) (-(numberOf 10 ds : Int))

/-- The texts of a member of an object. -/
inductive MemberText (G : List Char → Json → Prop) : List Char → String × Json → Prop
  | mk {k s : List Char} {name : String} {v : Json} (hname : Spaced StringText k name)
      (hvalue : Spaced G s v) : MemberText G (k ++ ':' :: s) (name, v)

/-- The texts of items with commas between brackets. -/
inductive Enclosed {α : Type} (first last : Char) (G : List Char → α → Prop) :
    List Char → List α → Prop
  | none {s : List Char} (h : IsGap s) : Enclosed first last G (first :: (s ++ [last])) []
  | some {s : List Char} {as : List α} (h : Separated ',' G s as) :
      Enclosed first last G (first :: (s ++ [last])) as

/-- **A text denotes a value.** -/
inductive Denotes : List Char → Json → Prop
  | string {s : List Char} {t : String} (h : StringText s t) : Denotes s (.string t)
  | number {s : List Char} {n : Int} (h : NumberText s n) : Denotes s (.number n)
  | array {s : List Char} {vs : List Json} (h : Enclosed '[' ']' (Spaced Denotes) s vs) :
      Denotes s (.array vs)
  | object {s : List Char} {ms : List (String × Json)}
      (h : Enclosed '\x7b' '\x7d' (MemberText Denotes) s ms) : Denotes s (.object ms)

/-- **A document**: a value between blanks. -/
def IsDocument (text : String) (v : Json) : Prop := Spaced Denotes text.toList v

/-! ## 2. Strings as they are laid out

A character is laid out as itself, by a letter or by its number, and the number is needed for
controls only, so that two of its four digits are zeros. -/

theorem digitValue?_digitChar {d : Nat} (h : d < 16) : digitValue? (Nat.digitChar d) = some d := by
  revert d
  decide

theorem isDigitOf_digitChar {base d : Nat} (hbase : base ≤ 16) (h : d < base) :
    isDigitOf base (Nat.digitChar d) = true := by
  simp [isDigitOf, digitValue?_digitChar (Nat.lt_of_lt_of_le h hbase), h]

/-- The number of a control, in four digits. -/
theorem hexText_control (n : Nat) (h : n < 0x20) :
    HexText ['0', '0', Nat.digitChar (n / 16), Nat.digitChar (n % 16)] n := by
  have hhigh : n / 16 < 16 := by omega
  have hlow : n % 16 < 16 := by omega
  refine ⟨rfl, ?_, ?_⟩
  · simp only [List.forall_mem_cons]
    exact ⟨rfl, rfl, isDigitOf_digitChar (Nat.le_refl _) hhigh,
      isDigitOf_digitChar (Nat.le_refl _) hlow, nofun⟩
  · show ((0 * 16 + 0) * 16 + (digitValue? (Nat.digitChar (n / 16))).getD 0) * 16 +
      (digitValue? (Nat.digitChar (n % 16))).getD 0 = n
    rw [digitValue?_digitChar hhigh, digitValue?_digitChar hlow, Option.getD_some,
      Option.getD_some]
    omega

/-- **Every character** is laid out as a text of it. -/
theorem charText_escape (c : Char) : CharText (escape c) c := by
  unfold escape
  split
  · exact .short rfl
  · exact .short rfl
  · exact .short rfl
  · exact .short rfl
  · exact .short rfl
  · exact .short rfl
  · exact .short rfl
  · rename_i hquote hbackslash _ _ _ _ _
    split
    · rename_i hcontrol
      have h := CharText.unit (hexText_control c.toNat hcontrol) c.valid
      rwa [Char.ofNat_toNat] at h
    · rename_i hplain
      refine .plain ?_
      simp only [isPlain, Bool.and_eq_true, bne_iff_ne, decide_eq_true_eq]
      exact ⟨⟨hquote, hbackslash⟩, Nat.not_lt.mp hplain⟩

/-- **Every string** is laid out as a text of it, character by character. -/
theorem stringText_stringText (t : String) : StringText (stringText t) t := by
  have h : List.Forall₂ CharText (t.toList.map escape) t.toList := by
    rw [List.forall₂_map_left_iff, List.forall₂_same]
    exact fun c _ => charText_escape c
  exact .mk h

/-! ## 3. Numbers as they are laid out

The digits of a number are made from the last to the first; by induction on the number they
write it, and the first is no zero. -/

/-- One digit more at the end. -/
theorem numberOf_concat (base : Nat) (ds : List Char) (d : Char) :
    numberOf base (ds ++ [d]) = numberOf base ds * base + (digitValue? d).getD 0 := by
  rw [numberOf, List.foldl_append]
  rfl

theorem digitChar_ne_zero {d : Nat} (h : d < 10) (hd : d ≠ 0) : Nat.digitChar d ≠ '0' := by
  revert d
  decide

/-- **The decimal digits of a number** write it, without a needless zero. -/
theorem isWhole_toDigits (n : Nat) :
    IsWhole (Nat.toDigits 10 n) ∧ numberOf 10 (Nat.toDigits 10 n) = n ∧
      (n ≠ 0 → (Nat.toDigits 10 n).head? ≠ some '0') := by
  induction n using Nat.strongRecOn with
  | ind n ih =>
    by_cases hn : n < 10
    · rw [Nat.toDigits_of_lt_base hn]
      refine ⟨⟨by simp, ?_, ?_⟩, ?_, ?_⟩
      · exact List.forall_mem_singleton.mpr (isDigitOf_digitChar (by decide) hn)
      · intro h
        rw [Option.some.inj h]
      · simp [numberOf, digitValue?_digitChar (show n < 16 by omega)]
      · intro hzero h
        exact digitChar_ne_zero hn hzero (Option.some.inj h)
    · obtain ⟨hwhole, hvalue, hlead⟩ := ih (n / 10) (by omega)
      have hlead := hlead (by omega)
      have hhead : (Nat.toDigits 10 (n / 10) ++ [Nat.digitChar (n % 10)]).head? =
          (Nat.toDigits 10 (n / 10)).head? := List.head?_append_of_ne_nil _ hwhole.ne_nil
      have hlast : n % 10 < 10 := Nat.mod_lt n (by decide)
      rw [Nat.toDigits_of_base_le (by decide) (Nat.not_lt.mp hn)]
      refine ⟨⟨by simp, ?_, ?_⟩, ?_, ?_⟩
      · intro c hc
        rcases List.mem_append.mp hc with hc | hc
        · exact hwhole.digits c hc
        · rw [List.mem_singleton.mp hc]
          exact isDigitOf_digitChar (by decide) hlast
      · intro h
        exact absurd (hhead ▸ h) hlead
      · rw [numberOf_concat, hvalue, digitValue?_digitChar (by omega), Option.getD_some]
        omega
      · intro _ h
        exact hlead (hhead ▸ h)

/-- **Every whole number** is laid out as a text of it. -/
theorem numberText_toString (n : Int) : NumberText (toString n).toList n := by
  have hdigits (m : Nat) : (Nat.repr m).toList = Nat.toDigits 10 m := by
    rw [Nat.repr_eq_ofList_toDigits, String.toList_ofList]
  have htext : (toString n).toList = if 0 ≤ n then Nat.toDigits 10 n.toNat
      else '-' :: Nat.toDigits 10 (-n).toNat := by
    show n.repr.toList = _
    rw [Int.repr_eq_if]
    split
    · exact hdigits _
    · rw [String.toList_append, hdigits]
      rfl
  rw [htext]
  split
  · rename_i hn
    obtain ⟨hwhole, hvalue, -⟩ := isWhole_toDigits n.toNat
    have h := NumberText.plain hwhole
    rwa [hvalue, Int.toNat_of_nonneg hn] at h
  · rename_i hn
    obtain ⟨hwhole, hvalue, -⟩ := isWhole_toDigits (-n).toNat
    have h := NumberText.minus hwhole
    rwa [hvalue, Int.toNat_of_nonneg (by omega), Int.neg_neg] at h

/-! ## 4. Values as they are laid out

Blanks of the layout are line ends with a margin, and the one after a colon. -/

/-- **Induction over values**, with the items of arrays and the members of objects. -/
@[elab_as_elim]
theorem induction {P : Json → Prop} (string : ∀ s, P (.string s)) (number : ∀ n, P (.number n))
    (array : ∀ items, (∀ v ∈ items, P v) → P (.array items))
    (object : ∀ members, (∀ m ∈ members, P m.2) → P (.object members)) (v : Json) : P v :=
  Json.rec (motive_1 := P) (motive_2 := fun items => ∀ v ∈ items, P v)
    (motive_3 := fun members => ∀ m ∈ members, P m.2) (motive_4 := fun m => P m.2)
    string number array object
    nofun (fun _ _ hhead htail => List.forall_mem_cons.mpr ⟨hhead, htail⟩)
    nofun (fun _ _ hhead htail => List.forall_mem_cons.mpr ⟨hhead, htail⟩)
    (fun _ _ h => h) v

theorem isGap_nil : IsGap [] := nofun

theorem isGap_newline (depth : Nat) : IsGap (newline depth) := by
  intro c hc
  rcases List.mem_cons.mp hc with rfl | hc
  · rfl
  · rw [List.eq_of_mem_replicate hc]
    rfl

theorem isGap_blank : IsGap [' '] := by
  intro c hc
  rw [List.mem_singleton.mp hc]
  rfl

/-- Blanks may be missing. -/
theorem Spaced.bare {α : Type} {G : List Char → α → Prop} {s : List Char} {a : α} (h : G s a) :
    Spaced G s a := by
  have hspaced := Spaced.mk isGap_nil h isGap_nil
  rwa [List.nil_append, List.append_nil] at hspaced

section Layout

variable {depth : Nat} {before after s : List Char}

/-- The items of an array as they are laid out, the first of them in any way. -/
theorem separated_itemsText {v : Json} {vs : List Json} (hbefore : IsGap before)
    (hafter : IsGap after) (hv : Denotes s v) (hvs : ∀ w ∈ vs, Denotes (text depth w) w) :
    Separated ',' (Spaced Denotes) (before ++ s ++ itemsText depth vs ++ after) (v :: vs) := by
  induction vs generalizing v s before with
  | nil =>
    rw [itemsText, List.append_nil]
    exact .one (.mk hbefore hv hafter)
  | cons w vs ih =>
    obtain ⟨hw, hvs⟩ := List.forall_mem_cons.mp hvs
    have hfirst : Spaced Denotes (before ++ s ++ []) v := .mk hbefore hv isGap_nil
    have h := Separated.more hfirst (ih (isGap_newline depth) hw hvs)
    simpa only [itemsText, List.append_assoc, List.nil_append, List.cons_append] using h

/-- A member as it is laid out. -/
theorem memberText_of_denotes (name : String) {v : Json} (hbefore : IsGap before)
    (hafter : IsGap after) (hv : Denotes s v) :
    MemberText Denotes (before ++ stringText name ++ [] ++ ':' :: ([' '] ++ s ++ after))
      (name, v) :=
  .mk (.mk hbefore (stringText_stringText name) isGap_nil) (.mk isGap_blank hv hafter)

/-- The members of an object as they are laid out, the first of them in any way. -/
theorem separated_membersText (name : String) {v : Json} {ms : List (String × Json)}
    (hbefore : IsGap before) (hafter : IsGap after) (hv : Denotes s v)
    (hms : ∀ m ∈ ms, Denotes (text depth m.2) m.2) :
    Separated ',' (MemberText Denotes)
      (before ++ stringText name ++ [':', ' '] ++ s ++ membersText depth ms ++ after)
      ((name, v) :: ms) := by
  induction ms generalizing name v s before with
  | nil =>
    have h : Separated ',' (MemberText Denotes) _ _ :=
      .one (memberText_of_denotes name hbefore hafter hv)
    simpa only [membersText, List.append_assoc, List.nil_append, List.cons_append,
      List.append_nil] using h
  | cons m ms ih =>
    obtain ⟨hm, hms⟩ := List.forall_mem_cons.mp hms
    have hfirst := memberText_of_denotes name hbefore isGap_nil hv
    have h := Separated.more hfirst (ih m.1 (isGap_newline depth) hm hms)
    simpa only [membersText, List.append_assoc, List.nil_append, List.cons_append,
      List.append_nil] using h

/-- **The layout of a value** is a text of it. -/
theorem denotes_text (depth : Nat) (v : Json) : Denotes (text depth v) v := by
  induction v using Json.induction generalizing depth with
  | string s => exact .string (stringText_stringText s)
  | number n => exact .number (numberText_toString n)
  | array items ih =>
    cases items with
    | nil => exact .array (.none isGap_nil)
    | cons v vs =>
      obtain ⟨hv, hvs⟩ := List.forall_mem_cons.mp ih
      have h := separated_itemsText (isGap_newline (depth + 1)) (isGap_newline depth)
        (hv (depth + 1)) fun w hw => hvs w hw (depth + 1)
      have htext := Denotes.array (.some h)
      simpa only [text, List.append_assoc, List.cons_append, List.nil_append] using htext
  | object members ih =>
    cases members with
    | nil => exact .object (.none isGap_nil)
    | cons m ms =>
      obtain ⟨hm, hms⟩ := List.forall_mem_cons.mp ih
      have h := separated_membersText m.1 (isGap_newline (depth + 1))
        (isGap_newline depth) (hm (depth + 1)) fun w hw => hms w hw (depth + 1)
      have htext := Denotes.object (.some h)
      simpa only [text, List.append_assoc, List.cons_append, List.nil_append] using htext

/-- **A rendered document** is a document of its value. -/
theorem isDocument_render (v : Json) : IsDocument v.render v := by
  rw [IsDocument, render, String.toList_ofList]
  exact .bare (denotes_text 0 v)

end Layout

end LintRun.Json

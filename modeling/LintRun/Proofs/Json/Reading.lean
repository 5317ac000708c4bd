import LintRun.Proofs.Json.Grammar

/-!
# Reading JSON documents

`Json.read?` reads a document, and it reads exactly the grammar (`read?_eq_some_iff`): what it
gives is denoted by the text, and a value that a text denotes is what it gives.  So a text
denotes one value at most (`IsDocument.eq`), and a value is read back from its layout.

The value reader recurses on a depth that the length of the text bounds.  That it reads no more
than the grammar is an induction on this depth (`sound_value`), and so is that it reads all of it
(`complete_value`), where a number must not be followed by another digit.

The reader is there for uniqueness.  A grammar may well give one text two values; a reader
cannot, so a grammar that a reader reads completely is unambiguous.  Both halves follow the
readers one by one, with the two notions of `Reader`: what a reader takes is a text of what it
gives (`Sound`), and a text of a value is taken, and no more than the text, wherever something
stands behind it that may follow (`Complete`).

What may follow has to be said since a number does not show where it ends.  A number may be
followed by anything but a digit; strings, arrays and objects end with a mark of their own and
may be followed by anything; what stands between blanks must not be followed by a blank, which
would belong to it.  Inside brackets a comma or the last bracket follows, and both will do, so
that these conditions vanish at the next bracket outward.

An array may be empty, and whether it is can only be seen behind the blanks.  The reader first
tries to read items; that it fails where there are none needs that no value starts with a blank
or as an array ends (`spaced_eq_none`).

For completeness the induction on the depth goes with the length of the text: what stands
between brackets is shorter than the text with its brackets, so that a depth which bounds a
text bounds what is nested in it (`DenotesWithin`, `Enclosed.mono`).
-/

namespace LintRun.Json

open Reader (Complete Consumes Separated Sound StartsOff)

/-! ## 1. The readers

They are written by the grammar, one for each of its relations, and know nothing of how
documents are laid out. -/

/-- Blanks. -/
def gap : Reader Unit := do let _ ← Reader.takeWhile isGap

/-- Something between blanks. -/
def spaced {α : Type} (p : Reader α) : Reader α := do
  gap
  let a ← p
  gap
  pure a

/-- Four hexadecimal digits. -/
def hex : Reader Nat := do
  let ds ← Reader.takeExactly (isDigitOf 16) 4
  pure (numberOf 16 ds)

/-- The character that a number after `\u` stands for, or that it stands for with a second. -/
def codeUnits : Reader Char := do
  let n ← hex
  if n.isValidChar then pure (Char.ofNat n) else do
    Reader.char '\\'
    Reader.char 'u'
    let low ← hex
    if (0xD800 ≤ n ∧ n < 0xDC00) ∧ 0xDC00 ≤ low ∧ low < 0xE000 then pure (paired n low)
    else failure

/-- A character after a backslash. -/
def escaped : Reader Char := do
  let letter ← Reader.satisfy fun _ => true
  if letter = 'u' then codeUnits else
    match shorthands.lookup letter with
    | some c => pure c
    | none => failure

/-- A character of a string. -/
def character : Reader Char :=
  Reader.satisfy isPlain <|> do
    Reader.char '\\'
    escaped

/-- A string. -/
def quoted : Reader String := do
  Reader.char '"'
  let cs ← Reader.many character
  Reader.char '"'
  pure (String.ofList cs)

/-- A whole number without a sign. -/
def whole : Reader Nat := do
  let ds ← Reader.takeWhile1 isDecimal
  if ds.head? = some '0' ∧ ds ≠ ['0'] then failure else pure (numberOf 10 ds)

/-- A whole number behind a minus. -/
def negative : Reader Int := do
  Reader.char '-'
  let n ← whole
  pure (-(n : Int))

/-- A whole number. -/
def signed : Reader Int :=
  negative <|> do
    let n ← whole
    pure (n : Int)

/-- A member of an object. -/
def member (p : Reader Json) : Reader (String × Json) := do
  let name ← spaced quoted
  Reader.char ':'
  let v ← spaced p
  pure (name, v)

/-- Items with commas between brackets, or none. -/
def enclosed {α : Type} (first last : Char) (p : Reader α) : Reader (List α) := do
  Reader.char first
  (do
    let as ← Reader.sepBy1 p (Reader.char ',')
    Reader.char last
    pure as) <|> do
    gap
    Reader.char last
    pure []

/-- A value that is nested no deeper than some depth. -/
def value : Nat → Reader Json
  | 0 => failure
  | depth + 1 => fun cs =>
    match cs.head? with
    | some '"' => (do let t ← quoted; pure (Json.string t) : Reader Json) cs
    | some '[' =>
      (do let vs ← enclosed '[' ']' (spaced (value depth)); pure (Json.array vs) : Reader Json) cs
    | some '\x7b' =>
      (do let ms ← enclosed '\x7b' '\x7d' (member (value depth)); pure (Json.object ms) :
        Reader Json) cs
    | _ => (do let n ← signed; pure (Json.number n) : Reader Json) cs

/-- **Reads a document.** -/
def read? (text : String) : Option Json := (spaced (value text.length)).run text.toList

/-! ## 2. Blanks

Blanks are taken as far as they go, so a text of blanks is taken exactly if no blank follows.
-/

section Blanks

variable {α : Type} {G H : List Char → α → Prop} {p : Reader α} {cs cs' s : List Char}

/-- Taking blanks never fails. -/
theorem gap_eq_some_iff {u : Unit} : gap cs = some (u, cs') ↔ cs.dropWhile isGap = cs' := by
  simp only [gap, Reader.bind_eq_some_iff, Reader.takeWhile_eq_some_iff, Reader.pure_eq_some_iff]
  constructor
  · rintro ⟨_, _, ⟨-, h⟩, -, rfl⟩
    exact h
  · rintro rfl
    exact ⟨_, _, ⟨rfl, rfl⟩, trivial, rfl⟩

theorem isGap_takeWhile (cs : List Char) : IsGap (cs.takeWhile isGap) :=
  List.all_eq_true.mp List.all_takeWhile

/-- Blanks are taken up to what is none. -/
theorem dropWhile_gap (hs : IsGap s) (hcs : StartsOff isGap cs) :
    (s ++ cs).dropWhile isGap = cs :=
  (Reader.takeWhile_eq_some_iff.mp (Reader.takeWhile_append hs hcs)).2

theorem sound_spaced (hp : Sound p G) : Sound (spaced p) (Spaced G) := by
  intro cs a cs' h
  simp only [spaced, Reader.bind_eq_some_iff, gap_eq_some_iff, Reader.pure_eq_some_iff] at h
  obtain ⟨_, _, rfl, _, rest, hread, _, _, rfl, rfl, rfl⟩ := h
  obtain ⟨s, hs, hG⟩ := hp _ _ _ hread
  refine ⟨_, ?_, .mk (isGap_takeWhile cs) hG (isGap_takeWhile rest)⟩
  rw [List.append_assoc, List.takeWhile_append_dropWhile, List.append_assoc, ← hs,
    List.takeWhile_append_dropWhile]

/-- **Something between blanks is read** up to something that is no blank. -/
theorem complete_spaced {Follows : List Char → Prop} (hp : Complete p G Follows)
    (hstarts : ∀ s a, G s a → ∀ cs, StartsOff isGap (s ++ cs))
    (hfollows : ∀ s cs, IsGap s → Follows cs → Follows (s ++ cs)) :
    Complete (spaced p) (Spaced G) fun cs => Follows cs ∧ StartsOff isGap cs := by
  rintro _ a ⟨hbefore, hG, hafter⟩ cs ⟨hcs, hend⟩
  rename_i before s after
  simp only [spaced, Reader.bind_eq_some_iff, gap_eq_some_iff, Reader.pure_eq_some_iff]
  refine ⟨(), _, rfl, a, after ++ cs, ?_, (), cs, dropWhile_gap hafter hend, rfl, rfl⟩
  rw [List.append_assoc, List.append_assoc, dropWhile_gap hbefore (hstarts _ _ hG _)]
  exact hp _ _ hG _ (hfollows _ _ hafter hcs)

/-- What stands between blanks is no longer than it is with them. -/
theorem Spaced.mono {a : α} (h : Spaced G s a) {n : Nat} (hn : s.length ≤ n)
    (himp : ∀ t a, t.length ≤ n → G t a → H t a) : Spaced H s a := by
  obtain ⟨hbefore, hG, hafter⟩ := h
  simp only [List.length_append] at hn
  exact .mk hbefore (himp _ _ (by omega) hG) hafter

end Blanks

/-! ## 3. Strings

A number behind a backslash is a character by itself or the first half of one; that it cannot
be both keeps the two cases of the reader apart. -/

section Strings

variable {cs cs' s : List Char}

theorem hex_eq_some_iff {n : Nat} :
    hex cs = some (n, cs') ↔ ∃ s, cs = s ++ cs' ∧ HexText s n := by
  simp only [hex, Reader.bind_eq_some_iff, Reader.takeExactly_eq_some_iff,
    Reader.pure_eq_some_iff]
  constructor
  · rintro ⟨s, _, ⟨rfl, hlength, hdigits⟩, hn, rfl⟩
    exact ⟨s, rfl, hlength, hdigits, hn⟩
  · rintro ⟨s, rfl, hlength, hdigits, hn⟩
    exact ⟨s, cs', ⟨rfl, hlength, hdigits⟩, hn, rfl⟩

/-- What is taken behind a backslash makes a text of a character with it. -/
theorem sound_escaped {c : Char} (h : escaped cs = some (c, cs')) :
    ∃ s, cs = s ++ cs' ∧ CharText ('\\' :: s) c := by
  simp only [escaped, Reader.bind_eq_some_iff, Reader.satisfy_eq_some_iff] at h
  obtain ⟨letter, rest, ⟨rfl, -⟩, h⟩ := h
  split at h
  · rename_i hletter
    subst hletter
    simp only [codeUnits, Reader.bind_eq_some_iff, hex_eq_some_iff] at h
    obtain ⟨n, _, ⟨s, rfl, hs⟩, h⟩ := h
    split at h
    · rename_i hn
      obtain ⟨rfl, rfl⟩ := Reader.pure_eq_some_iff.mp h
      exact ⟨'u' :: s, rfl, .unit hs hn⟩
    · simp only [Reader.bind_eq_some_iff, Reader.char_eq_some_iff, hex_eq_some_iff] at h
      obtain ⟨_, _, rfl, _, _, rfl, low, _, ⟨t, rfl, ht⟩, h⟩ := h
      split at h
      · rename_i hpair
        obtain ⟨rfl, rfl⟩ := Reader.pure_eq_some_iff.mp h
        refine ⟨'u' :: (s ++ '\\' :: 'u' :: t), ?_, .pair hs ht hpair.1 hpair.2⟩
        simp
      · cases Reader.failure_eq_some_iff.mp h
  · cases hshort : shorthands.lookup letter with
    | none =>
      rw [hshort] at h
      cases Reader.failure_eq_some_iff.mp h
    | some c =>
      rw [hshort] at h
      obtain ⟨rfl, rfl⟩ := Reader.pure_eq_some_iff.mp h
      exact ⟨[letter], rfl, .short hshort⟩

theorem sound_character : Sound character CharText := by
  intro cs c cs' h
  simp only [character, Reader.orElse_eq_some_iff, Reader.bind_eq_some_iff,
    Reader.satisfy_eq_some_iff, Reader.char_eq_some_iff] at h
  rcases h with ⟨rfl, hc⟩ | ⟨-, _, _, rfl, h⟩
  · exact ⟨[c], rfl, .plain hc⟩
  · obtain ⟨s, rfl, hs⟩ := sound_escaped h
    exact ⟨'\\' :: s, rfl, hs⟩

theorem CharText.ne_nil {c : Char} (h : CharText s c) : s ≠ [] := by
  cases h <;> exact List.cons_ne_nil _ _

theorem consumes_character : Consumes character := by
  intro cs c cs' h
  obtain ⟨s, rfl, hs⟩ := sound_character _ _ _ h
  have hpos : 0 < s.length := List.length_pos_of_ne_nil hs.ne_nil
  rw [List.length_append]
  omega

/-- The first half of a pair is no character by itself. -/
theorem not_isValidChar_of_isHigh {n : Nat} (h : IsHigh n) : ¬n.isValidChar := by
  obtain ⟨hlow, hhigh⟩ := h
  rw [Nat.isValidChar]
  omega

/-- **Every text of a character is read**, whatever follows: one character of it or two tell
how long it is. -/
theorem complete_character : Complete character CharText fun _ => True := by
  intro s c h cs _
  have hplain {rest : List Char} : Reader.satisfy isPlain ('\\' :: rest) = none := rfl
  have hescaped {rest : List Char} (hrest : escaped rest = some (c, cs)) :
      character ('\\' :: rest) = some (c, cs) := by
    simp only [character, Reader.orElse_eq_some_iff, Reader.bind_eq_some_iff,
      Reader.char_eq_some_iff]
    exact .inr ⟨hplain, (), rest, rfl, hrest⟩
  cases h with
  | plain h =>
    simp only [character, Reader.orElse_eq_some_iff, Reader.satisfy_eq_some_iff]
    exact .inl ⟨rfl, h⟩
  | @short letter _ h =>
    refine hescaped ?_
    simp only [escaped, Reader.bind_eq_some_iff, Reader.satisfy_eq_some_iff]
    refine ⟨letter, cs, ⟨rfl, trivial⟩, ?_⟩
    rw [if_neg, h]
    · exact Reader.pure_eq_some_iff.mpr ⟨rfl, rfl⟩
    · rintro rfl
      cases h
  | @unit s n h hn =>
    refine hescaped ?_
    simp only [escaped, codeUnits, Reader.bind_eq_some_iff, Reader.satisfy_eq_some_iff]
    refine ⟨'u', s ++ cs, ⟨rfl, trivial⟩, ?_⟩
    rw [if_pos rfl, Reader.bind_eq_some_iff]
    refine ⟨n, cs, hex_eq_some_iff.mpr ⟨s, rfl, h⟩, ?_⟩
    rw [if_pos hn]
    exact Reader.pure_eq_some_iff.mpr ⟨rfl, rfl⟩
  | @pair s t high low hs ht hhigh hlow =>
    have htext : 'u' :: (s ++ '\\' :: 'u' :: t) ++ cs =
        'u' :: (s ++ '\\' :: 'u' :: (t ++ cs)) := by simp
    rw [List.cons_append, htext]
    refine hescaped ?_
    simp only [escaped, codeUnits, Reader.bind_eq_some_iff, Reader.satisfy_eq_some_iff]
    refine ⟨'u', _, ⟨rfl, trivial⟩, ?_⟩
    rw [if_pos rfl, Reader.bind_eq_some_iff]
    refine ⟨high, _, hex_eq_some_iff.mpr ⟨s, rfl, hs⟩, ?_⟩
    rw [if_neg (not_isValidChar_of_isHigh hhigh)]
    simp only [Reader.bind_eq_some_iff, Reader.char_eq_some_iff]
    refine ⟨(), _, rfl, (), _, rfl, low, cs, hex_eq_some_iff.mpr ⟨t, rfl, ht⟩, ?_⟩
    rw [if_pos ⟨hhigh, hlow⟩]
    exact Reader.pure_eq_some_iff.mpr ⟨rfl, rfl⟩

theorem sound_quoted : Sound quoted StringText := by
  intro cs t cs' h
  simp only [quoted, Reader.bind_eq_some_iff, Reader.char_eq_some_iff,
    Reader.pure_eq_some_iff] at h
  obtain ⟨_, _, rfl, chars, _, hchars, _, _, rfl, rfl, rfl⟩ := h
  obtain ⟨_, rfl, texts, htexts, rfl⟩ := Reader.sound_many sound_character consumes_character
    _ _ _ hchars
  refine ⟨'"' :: (texts.flatten ++ ['"']), by simp, .mk ?_⟩
  rwa [String.toList_ofList]

/-- A string ends at its quote, as no text of a character starts with one. -/
theorem complete_quoted : Complete quoted StringText fun _ => True := by
  intro s t h cs _
  obtain @⟨texts, _, htexts⟩ := h
  have hend : character ('"' :: cs) = none := rfl
  have hmany := Reader.complete_many complete_character consumes_character htexts hend
  simp only [quoted, Reader.bind_eq_some_iff, Reader.char_eq_some_iff, Reader.pure_eq_some_iff]
  refine ⟨(), texts.flatten ++ '"' :: cs, by simp, t.toList, _, hmany, (), cs, rfl, ?_, rfl⟩
  exact String.ofList_toList

end Strings

/-! ## 4. Numbers

Digits are taken as far as they go, and a zero in front is refused afterwards. -/

section Numbers

variable {cs cs' s : List Char}

/-- **A whole number** is all the digits that there are. -/
theorem whole_eq_some_iff {n : Nat} :
    whole cs = some (n, cs') ↔
      ∃ ds, cs = ds ++ cs' ∧ IsWhole ds ∧ numberOf 10 ds = n ∧ StartsOff isDecimal cs' := by
  simp only [whole, Reader.bind_eq_some_iff, Reader.takeWhile1_eq_some_iff]
  constructor
  · rintro ⟨ds, _, ⟨hne, rfl, rfl⟩, h⟩
    split at h
    · cases Reader.failure_eq_some_iff.mp h
    · rename_i hlead
      obtain ⟨rfl, rfl⟩ := Reader.pure_eq_some_iff.mp h
      refine ⟨_, List.takeWhile_append_dropWhile.symm, ⟨hne, ?_, ?_⟩, rfl,
        Reader.startsOff_dropWhile _⟩
      · exact List.all_eq_true.mp List.all_takeWhile
      · exact fun hzero => Decidable.not_not.mp fun hone => hlead ⟨hzero, hone⟩
  · rintro ⟨ds, rfl, hds, rfl, hend⟩
    obtain ⟨htake, hdrop⟩ :=
      Reader.takeWhile_eq_some_iff.mp (Reader.takeWhile_append hds.digits hend)
    refine ⟨ds, cs', ⟨hds.ne_nil, htake, hdrop⟩, ?_⟩
    rw [if_neg fun h => h.2 (hds.lead h.1)]
    exact Reader.pure_eq_some_iff.mpr ⟨rfl, rfl⟩

theorem negative_eq_some_iff {n : Int} :
    negative cs = some (n, cs') ↔
      ∃ rest m, cs = '-' :: rest ∧ whole rest = some (m, cs') ∧ -(m : Int) = n := by
  simp only [negative, Reader.bind_eq_some_iff, Reader.char_eq_some_iff, Reader.pure_eq_some_iff]
  constructor
  · rintro ⟨_, rest, rfl, m, _, hm, hn, rfl⟩
    exact ⟨rest, m, rfl, hm, hn⟩
  · rintro ⟨rest, m, rfl, hm, hn⟩
    exact ⟨(), rest, rfl, m, cs', hm, hn, rfl⟩

theorem sound_signed : Sound signed NumberText := by
  intro cs n cs' h
  simp only [signed, Reader.orElse_eq_some_iff, negative_eq_some_iff, Reader.bind_eq_some_iff,
    whole_eq_some_iff, Reader.pure_eq_some_iff] at h
  rcases h with ⟨_, _, rfl, ⟨ds, rfl, hds, rfl, -⟩, rfl⟩ |
    ⟨-, _, _, ⟨ds, rfl, hds, rfl, -⟩, rfl, rfl⟩
  · exact ⟨'-' :: ds, rfl, .minus hds⟩
  · exact ⟨ds, rfl, .plain hds⟩

theorem IsWhole.starts (h : IsWhole s) : ∃ d ds, s = d :: ds ∧ isDecimal d = true := by
  obtain ⟨d, ds, rfl⟩ := List.exists_cons_of_ne_nil h.ne_nil
  exact ⟨d, ds, rfl, h.digits d (List.mem_cons_self ..)⟩

/-- A number is read if no digit follows. -/
theorem complete_signed : Complete signed NumberText (StartsOff isDecimal) := by
  intro s n h cs hend
  rw [signed, Reader.orElse_eq_some_iff]
  cases h with
  | minus h =>
    have hwhole := whole_eq_some_iff.mpr ⟨_, rfl, h, rfl, hend⟩
    exact .inl (negative_eq_some_iff.mpr ⟨_, _, rfl, hwhole, rfl⟩)
  | plain h =>
    have hwhole := whole_eq_some_iff.mpr ⟨_, rfl, h, rfl, hend⟩
    refine .inr ⟨?_, Reader.bind_eq_some_iff.mpr
      ⟨_, cs, hwhole, Reader.pure_eq_some_iff.mpr ⟨rfl, rfl⟩⟩⟩
    refine Option.eq_none_iff_forall_ne_some.mpr fun x hx => ?_
    obtain ⟨rest, _, hminus, -⟩ := negative_eq_some_iff.mp hx
    obtain ⟨d, ds, rfl, hd⟩ := h.starts
    cases hminus
    exact absurd hd (by decide)

end Numbers

/-! ## 5. Values

What a value starts with tells its kind. -/

section Values

variable {cs s : List Char} {v : Json} {G : List Char → Json → Prop} {p : Reader Json}

theorem StringText.starts {t : String} (h : StringText s t) : ∃ rest, s = '"' :: rest := by
  obtain @⟨texts, _, -⟩ := h
  exact ⟨_, rfl⟩

theorem StringText.startsOff_gap {t : String} (h : StringText s t) (cs : List Char) :
    StartsOff isGap (s ++ cs) := by
  obtain ⟨rest, rfl⟩ := h.starts
  exact Reader.startsOff_cons rfl

/-- A number starts with a minus or a digit. -/
theorem NumberText.starts {n : Int} (h : NumberText s n) :
    ∃ c rest, s = c :: rest ∧ (c = '-' ∨ isDecimal c = true) := by
  cases h with
  | minus h => exact ⟨'-', _, rfl, .inl rfl⟩
  | plain h =>
    obtain ⟨d, ds, rfl, hd⟩ := h.starts
    exact ⟨d, ds, rfl, .inr hd⟩

/-- What a number starts with is nothing else. -/
theorem ne_of_numeral {c d : Char} (hc : c = '-' ∨ isDecimal c = true) (hminus : d ≠ '-')
    (hdigit : isDecimal d = false) : c ≠ d := by
  rintro rfl
  exact hc.elim hminus fun hc => Bool.noConfusion (hc.symm.trans hdigit)

theorem Enclosed.starts {α : Type} {G : List Char → α → Prop} {first last : Char} {as : List α}
    (h : Enclosed first last G s as) : ∃ rest, s = first :: rest := by
  cases h <;> exact ⟨_, rfl⟩

/-- No value starts with a blank, or as an array ends. -/
theorem Denotes.starts (h : Denotes s v) :
    ∃ c rest, s = c :: rest ∧ isGap c = false ∧ c ≠ ']' := by
  cases h with
  | string h =>
    obtain ⟨rest, rfl⟩ := h.starts
    exact ⟨'"', rest, rfl, rfl, by decide⟩
  | number h =>
    obtain ⟨c, rest, rfl, hc⟩ := h.starts
    refine ⟨c, rest, rfl, ?_⟩
    refine ⟨?_, ne_of_numeral hc (by decide) rfl⟩
    refine Bool.eq_false_iff.mpr fun hgap => ?_
    simp only [isGap, Bool.or_eq_true, beq_iff_eq] at hgap
    rcases hgap with ((h | h) | h) | h <;> exact ne_of_numeral hc (by decide) rfl h
  | array h =>
    obtain ⟨rest, rfl⟩ := h.starts
    exact ⟨'[', rest, rfl, rfl, by decide⟩
  | object h =>
    obtain ⟨rest, rfl⟩ := h.starts
    exact ⟨'\x7b', rest, rfl, rfl, by decide⟩

theorem Denotes.startsOff_gap (h : Denotes s v) (cs : List Char) :
    StartsOff isGap (s ++ cs) := by
  obtain ⟨c, rest, rfl, hc, -⟩ := h.starts
  exact Reader.startsOff_cons hc

/-- A blank is no digit. -/
theorem startsOff_isDecimal_gap (hs : IsGap s) (hcs : StartsOff isDecimal cs) :
    StartsOff isDecimal (s ++ cs) := by
  cases s with
  | nil => exact hcs
  | cons c s =>
    refine Reader.startsOff_cons ?_
    have hc := hs c (List.mem_cons_self ..)
    simp only [isGap, Bool.or_eq_true, beq_iff_eq] at hc
    rcases hc with ((rfl | rfl) | rfl) | rfl <;> rfl

/-- **Nothing is read** between blanks and something that no text starts with. -/
theorem spaced_eq_none {α : Type} {G : List Char → α → Prop} {p : Reader α} {stop : Char}
    (hp : Sound p G)
    (hstarts : ∀ s a, G s a → ∃ c rest, s = c :: rest ∧ isGap c = false ∧ c ≠ stop)
    (hstop : isGap stop = false) (hs : IsGap s) : spaced p (s ++ stop :: cs) = none := by
  refine Option.eq_none_iff_forall_ne_some.mpr fun ⟨a, rest⟩ hread => ?_
  obtain ⟨_, htext, ⟨hbefore, hG, -⟩⟩ := sound_spaced hp _ _ _ hread
  obtain ⟨c, more, rfl, hc, hne⟩ := hstarts _ _ hG
  have hdrop := congrArg (List.dropWhile isGap) htext
  rw [dropWhile_gap hs (Reader.startsOff_cons hstop), List.append_assoc, List.append_assoc,
    List.cons_append, dropWhile_gap hbefore (Reader.startsOff_cons hc)] at hdrop
  exact hne (List.cons.inj hdrop).1.symm

/-- Something that denotes a value and is not longer than a bound. -/
def DenotesWithin (n : Nat) (s : List Char) (v : Json) : Prop := Denotes s v ∧ s.length ≤ n

theorem sound_member (hp : Sound p G) : Sound (member p) (MemberText G) := by
  rintro cs ⟨name, v⟩ cs' h
  simp only [member, Reader.bind_eq_some_iff, Reader.char_eq_some_iff, Reader.pure_eq_some_iff]
    at h
  obtain ⟨_, _, hname, _, _, rfl, _, _, hvalue, h, rfl⟩ := h
  cases h
  obtain ⟨k, rfl, hk⟩ := sound_spaced sound_quoted _ _ _ hname
  obtain ⟨s, rfl, hs⟩ := sound_spaced hp _ _ _ hvalue
  exact ⟨k ++ ':' :: s, by simp, .mk hk hs⟩

theorem complete_member {Follows : List Char → Prop}
    (hp : Complete (spaced p) (Spaced G) Follows) : Complete (member p) (MemberText G) Follows := by
  rintro _ _ ⟨hname, hvalue⟩ cs hcs
  rename_i k s name v
  have hk := complete_spaced complete_quoted (fun _ _ h => h.startsOff_gap)
    (fun _ _ _ _ => trivial) k name hname (':' :: (s ++ cs))
    ⟨trivial, Reader.startsOff_cons rfl⟩
  simp only [member, Reader.bind_eq_some_iff, Reader.char_eq_some_iff, Reader.pure_eq_some_iff]
  rw [List.append_assoc, List.cons_append]
  exact ⟨name, _, hk, (), _, rfl, v, cs, hp _ _ hvalue _ hcs, rfl, rfl⟩

theorem MemberText.mono {H : List Char → Json → Prop} {m : String × Json} (h : MemberText G s m)
    {n : Nat} (hn : s.length ≤ n) (himp : ∀ t a, t.length ≤ n → G t a → H t a) :
    MemberText H s m := by
  obtain ⟨hname, hvalue⟩ := h
  simp only [List.length_append, List.length_cons] at hn
  exact .mk hname (hvalue.mono (by omega) himp)

section Enclosed

variable {α : Type} {G : List Char → α → Prop} {p : Reader α} {first last : Char}

theorem enclosed_eq_some_iff {as : List α} {cs' : List Char} :
    enclosed first last p cs = some (as, cs') ↔ ∃ rest, cs = first :: rest ∧
      (Reader.sepBy1 p (Reader.char ',') rest = some (as, last :: cs') ∨
        (do let as ← Reader.sepBy1 p (Reader.char ','); Reader.char last; pure as : Reader _)
            rest = none ∧ rest.dropWhile isGap = last :: cs' ∧ as = []) := by
  simp only [enclosed, Reader.bind_eq_some_iff, Reader.char_eq_some_iff,
    Reader.orElse_eq_some_iff, gap_eq_some_iff, Reader.pure_eq_some_iff]
  constructor
  · rintro ⟨_, rest, rfl, h⟩
    refine ⟨rest, rfl, ?_⟩
    rcases h with ⟨as, _, h, _, _, rfl, rfl, rfl⟩ | ⟨hnone, _, _, hgap, _, _, rfl, rfl, rfl⟩
    · exact .inl h
    · exact .inr ⟨hnone, hgap, rfl⟩
  · rintro ⟨rest, rfl, h⟩
    refine ⟨(), rest, rfl, ?_⟩
    rcases h with h | ⟨hnone, hgap, rfl⟩
    · exact .inl ⟨as, _, h, (), cs', rfl, rfl, rfl⟩
    · exact .inr ⟨hnone, (), _, hgap, (), cs', rfl, rfl, rfl⟩

/-- Items that are read between brackets are items, or there are none. -/
theorem sound_enclosed (hp : Sound p G) :
    Sound (enclosed first last p) (Enclosed first last G) := by
  intro cs as cs' h
  obtain ⟨rest, rfl, h | ⟨-, hgap, rfl⟩⟩ := enclosed_eq_some_iff.mp h
  · obtain ⟨s, rfl, hs⟩ := Reader.sound_sepBy1 hp _ _ _ h
    exact ⟨first :: (s ++ [last]), by simp, .some hs⟩
  · refine ⟨first :: (rest.takeWhile isGap ++ [last]), ?_, .none (isGap_takeWhile rest)⟩
    rw [List.cons_append, List.append_assoc, List.singleton_append, ← hgap,
      List.takeWhile_append_dropWhile]

/-- **Items between brackets are read**, whatever follows the last bracket. -/
theorem complete_enclosed {Follows : List Char → Prop} (hp : Complete p G Follows)
    (hconsumes : Consumes (Reader.behind ',' p)) (hcomma : ∀ cs, Follows (',' :: cs))
    (hlast : ∀ cs, Follows (last :: cs)) (hne : (last == ',') = false)
    (hgap : isGap last = false) (hnone : ∀ s cs, IsGap s → p (s ++ last :: cs) = none) :
    Complete (enclosed first last p) (Enclosed first last G) fun _ => True := by
  intro s as h cs _
  refine enclosed_eq_some_iff.mpr ?_
  cases h with
  | @none s h =>
    have hfirst : Reader.sepBy1 p (Reader.char ',') (s ++ last :: cs) = Option.none :=
      Reader.bind_eq_none (hnone s cs h)
    have hrest : (s ++ last :: cs).dropWhile isGap = last :: cs :=
      dropWhile_gap h (Reader.startsOff_cons hgap)
    exact ⟨s ++ last :: cs, by simp, .inr ⟨Reader.bind_eq_none hfirst, hrest, rfl⟩⟩
  | @some s as h =>
    refine ⟨s ++ last :: cs, by simp, .inl ?_⟩
    exact Reader.complete_sepBy1 hconsumes hp hcomma _ _ h _
      ⟨hlast cs, Reader.startsOff_cons hne⟩

end Enclosed

/-- **What is read as a value** is a text of it. -/
theorem sound_value (depth : Nat) : Sound (value depth) Denotes := by
  induction depth with
  | zero =>
    intro cs v cs' h
    cases Reader.failure_eq_some_iff.mp h
  | succ depth ih =>
    intro cs v cs' h
    simp only [value] at h
    split at h
    · simp only [Reader.bind_eq_some_iff, Reader.pure_eq_some_iff] at h
      obtain ⟨t, _, ht, rfl, rfl⟩ := h
      obtain ⟨s, rfl, hs⟩ := sound_quoted _ _ _ ht
      exact ⟨s, rfl, .string hs⟩
    · simp only [Reader.bind_eq_some_iff, Reader.pure_eq_some_iff] at h
      obtain ⟨vs, _, hvs, rfl, rfl⟩ := h
      obtain ⟨s, rfl, hs⟩ := sound_enclosed (sound_spaced ih) _ _ _ hvs
      exact ⟨s, rfl, .array hs⟩
    · simp only [Reader.bind_eq_some_iff, Reader.pure_eq_some_iff] at h
      obtain ⟨ms, _, hms, rfl, rfl⟩ := h
      obtain ⟨s, rfl, hs⟩ := sound_enclosed (sound_member ih) _ _ _ hms
      exact ⟨s, rfl, .object hs⟩
    · simp only [Reader.bind_eq_some_iff, Reader.pure_eq_some_iff] at h
      obtain ⟨n, _, hn, rfl, rfl⟩ := h
      obtain ⟨s, rfl, hs⟩ := sound_signed _ _ _ hn
      exact ⟨s, rfl, .number hs⟩

theorem Enclosed.mono {α : Type} {G H : List Char → α → Prop} {first last : Char} {as : List α}
    (h : Enclosed first last G s as) {n : Nat} (hn : s.length ≤ n + 1)
    (himp : ∀ t a, t.length ≤ n → G t a → H t a) : Enclosed first last H s as := by
  cases h with
  | none h => exact .none h
  | some h =>
    simp only [List.length_cons, List.length_append, List.length_nil] at hn
    exact .some (h.mono (by omega) himp)

/-- What can follow a value with blanks: no blank, and no digit. -/
def Ends (cs : List Char) : Prop := StartsOff isDecimal cs ∧ StartsOff isGap cs

theorem ends_cons {c : Char} (hdigit : isDecimal c = false) (hgap : isGap c = false) :
    Ends (c :: cs) :=
  ⟨Reader.startsOff_cons hdigit, Reader.startsOff_cons hgap⟩

section Complete

variable {n depth : Nat} (h : Complete (value depth) (DenotesWithin n) (StartsOff isDecimal))

include h

theorem complete_spaced_value :
    Complete (spaced (value depth)) (Spaced (DenotesWithin n)) Ends :=
  complete_spaced h (fun _ _ hs => hs.1.startsOff_gap) fun _ _ => startsOff_isDecimal_gap

/-- The items of an array, at the depth below. -/
theorem complete_items :
    Complete (enclosed '[' ']' (spaced (value depth)))
      (Enclosed '[' ']' (Spaced (DenotesWithin n))) fun _ => True :=
  complete_enclosed (complete_spaced_value h) (sound_spaced (sound_value depth)).consumes_behind
    (fun _ => ends_cons rfl rfl) (fun _ => ends_cons rfl rfl) rfl rfl
    fun _ _ hs => spaced_eq_none (sound_value depth) (fun _ _ => Denotes.starts) rfl hs

/-- The members of an object, at the depth below. -/
theorem complete_members :
    Complete (enclosed '\x7b' '\x7d' (member (value depth)))
      (Enclosed '\x7b' '\x7d' (MemberText (DenotesWithin n))) fun _ => True := by
  refine complete_enclosed (complete_member (complete_spaced_value h))
    (sound_member (sound_value depth)).consumes_behind (fun _ => ends_cons rfl rfl)
    (fun _ => ends_cons rfl rfl) rfl rfl fun s cs hs => Reader.bind_eq_none ?_
  refine spaced_eq_none sound_quoted (fun _ _ hs => ?_) rfl hs
  obtain ⟨rest, rfl⟩ := hs.starts
  exact ⟨'"', rest, rfl, rfl, by decide⟩

end Complete

/-- What starts as a number is read as one. -/
theorem value_of_numeral {depth : Nat} {c : Char} (hc : c = '-' ∨ isDecimal c = true) :
    value (depth + 1) (c :: cs) =
      (do let n ← signed; pure (Json.number n) : Reader Json) (c :: cs) := by
  simp only [value, List.head?_cons]
  split
  · rename_i h
    exact absurd (Option.some.inj h) (ne_of_numeral hc (by decide) rfl)
  · rename_i h
    exact absurd (Option.some.inj h) (ne_of_numeral hc (by decide) rfl)
  · rename_i h
    exact absurd (Option.some.inj h) (ne_of_numeral hc (by decide) rfl)
  · rfl

/-- **Every text of a value is read**, if the depth is as great as the text is long. -/
theorem complete_value (depth : Nat) :
    Complete (value depth) (DenotesWithin depth) (StartsOff isDecimal) := by
  induction depth with
  | zero =>
    rintro s v ⟨h, hlength⟩
    obtain ⟨c, rest, rfl, -⟩ := h.starts
    cases hlength
  | succ depth ih =>
    rintro s v ⟨h, hlength⟩ cs hcs
    cases h with
    | string h =>
      have hread := complete_quoted _ _ h cs trivial
      obtain ⟨rest, rfl⟩ := h.starts
      exact Reader.bind_eq_some_iff.mpr ⟨_, cs, hread, Reader.pure_eq_some_iff.mpr ⟨rfl, rfl⟩⟩
    | number h =>
      have hread := complete_signed _ _ h cs hcs
      obtain ⟨c, rest, rfl, hc⟩ := h.starts
      rw [List.cons_append, value_of_numeral hc]
      exact Reader.bind_eq_some_iff.mpr ⟨_, cs, hread, Reader.pure_eq_some_iff.mpr ⟨rfl, rfl⟩⟩
    | array h =>
      have hitems : Enclosed '[' ']' (Spaced (DenotesWithin depth)) s _ :=
        h.mono hlength fun _ _ ht hG => hG.mono ht fun _ _ ht hv => ⟨hv, ht⟩
      have hread := complete_items ih _ _ hitems cs trivial
      obtain ⟨rest, rfl⟩ := h.starts
      exact Reader.bind_eq_some_iff.mpr ⟨_, cs, hread, Reader.pure_eq_some_iff.mpr ⟨rfl, rfl⟩⟩
    | object h =>
      have hmembers : Enclosed '\x7b' '\x7d' (MemberText (DenotesWithin depth)) s _ :=
        h.mono hlength fun _ _ ht hG => hG.mono ht fun _ _ ht hv => ⟨hv, ht⟩
      have hread := complete_members ih _ _ hmembers cs trivial
      obtain ⟨rest, rfl⟩ := h.starts
      exact Reader.bind_eq_some_iff.mpr ⟨_, cs, hread, Reader.pure_eq_some_iff.mpr ⟨rfl, rfl⟩⟩

end Values

/-! ## 6. Documents

A document is read with a depth that its length bounds, so that the depth never decides. -/

/-- **Reading is the grammar**: a document is read as a value just when it denotes it. -/
theorem read?_eq_some_iff {text : String} {v : Json} :
    read? text = some v ↔ IsDocument text v := by
  rw [read?, Reader.run_eq_some_iff]
  constructor
  · intro h
    obtain ⟨s, hs, hv⟩ := sound_spaced (sound_value _) _ _ _ h
    rw [List.append_nil] at hs
    rwa [IsDocument, hs]
  · intro h
    have hwithin : Spaced (DenotesWithin text.toList.length) text.toList v :=
      h.mono (Nat.le_refl _) fun _ _ ht hv => ⟨hv, ht⟩
    have hread := complete_spaced_value (complete_value _) _ _ hwithin []
      ⟨Reader.startsOff_nil _, Reader.startsOff_nil _⟩
    rwa [List.append_nil, String.length_toList] at hread

/-- **A text denotes one value at most.** -/
theorem IsDocument.eq {text : String} {v w : Json} (hv : IsDocument text v)
    (hw : IsDocument text w) : v = w :=
  Option.some.inj ((read?_eq_some_iff.mpr hv).symm.trans (read?_eq_some_iff.mpr hw))

/-- **A value is all that its layout denotes.** -/
theorem isDocument_render_iff {v w : Json} : IsDocument v.render w ↔ w = v :=
  ⟨fun h => h.eq (isDocument_render v), fun h => h ▸ isDocument_render v⟩

end LintRun.Json

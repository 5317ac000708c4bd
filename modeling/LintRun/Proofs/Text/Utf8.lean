import LintRun.Text.Utf8
import Mathlib.Algebra.Ring.Nat

/-!
# Reading and writing UTF-8

The machine that reads UTF-8 gives out characters byte by byte (`decodeFrom_cons`).  In the
middle of a character it has read bytes that make, with the bytes it waits for, the encoding of
one character (`Pending.Reads`).  Each step keeps account of them (`Pending.Reads.step`), and
from this comes what there is to know of whole byte strings:

* a well-formed one is what its text is written as (`encode_decodeLossy`);
* what a text is written as is well-formed (`isValid_encode`);
* an ASCII byte is a character by itself wherever it stands (`decode_append_ascii`), and no
  other bytes are shown with an ASCII character (`mem_of_mem_shown`).

Arithmetic comes in at one point, where a first byte is looked at: it must hold the first
digits, in base 64, of exactly those code points whose encoding begins with it, and the range
of the second byte must cut off what is written shorter, what is a surrogate and what is too
large (`awaits_two`, `awaits_three`, `awaits_four`).  From there the invariant `Awaits` says
which bytes are still due for which code points, and a step takes one digit off.  The accounts
that a step keeps hold as long as nothing ill-formed has been given out; after that there is
nothing to account for, but still no ASCII character that is not a byte of its own.

Writing is the other direction: the tail of an encoding is read back digit by digit
(`decodeFrom_tails`).
-/

namespace LintRun.Utf8

/-! ## 1. Encodings of characters

The encoding of a character is a first byte and then the digits of its code point in base 64,
the highest first; the first byte holds what is left and says how many follow. -/

/-- The last bytes of the encoding of a code point, so many of them. -/
def tails : Nat → Nat → List UInt8
  | 0, _ => []
  | k + 1, n => UInt8.ofNat (n / 64 ^ k % 64 + 0x80) :: tails k n

theorem toNat_charOf {n : Nat} (h : n.isValidChar) : (charOf n).toNat = n := by
  rw [charOf, if_pos h, Char.ofNat, dif_pos h]
  rfl

theorem charOf_toNat (c : Char) : charOf c.toNat = c := by
  have hvalid : c.toNat.isValidChar := c.valid
  rw [charOf, if_pos hvalid, Char.ofNat, dif_pos hvalid]
  rfl

/-- How long an encoding is depends on the code point. -/
theorem encode_one {n : Nat} (h : n ≤ 0x7F) :
    String.utf8EncodeChar (charOf n) = [UInt8.ofNat n] := by
  have hn : (charOf n).val.toNat = n := toNat_charOf (.inl (by omega))
  rw [String.utf8EncodeChar, hn, if_pos h]

/-- Two bytes from U+0080 on. -/
theorem encode_two {n : Nat} (hlow : 0x7F < n) (hhigh : n ≤ 0x7FF) :
    String.utf8EncodeChar (charOf n) = UInt8.ofNat (n / 64 + 0xC0) :: tails 1 n := by
  have hn : (charOf n).val.toNat = n := toNat_charOf (.inl (by omega))
  have hmod : n / 64 % 0x20 = n / 64 := Nat.mod_eq_of_lt (by omega)
  rw [String.utf8EncodeChar, hn, if_neg (by omega), if_pos hhigh, hmod]
  simp only [tails, Nat.pow_zero, Nat.div_one]

/-- Three bytes from U+0800 on. -/
theorem encode_three {n : Nat} (hvalid : n.isValidChar) (hlow : 0x7FF < n) (hhigh : n ≤ 0xFFFF) :
    String.utf8EncodeChar (charOf n) = UInt8.ofNat (n / 4096 + 0xE0) :: tails 2 n := by
  have hn : (charOf n).val.toNat = n := toNat_charOf hvalid
  have hmod : n / 4096 % 0x10 = n / 4096 := Nat.mod_eq_of_lt (by omega)
  rw [String.utf8EncodeChar, hn, if_neg (by omega), if_neg (by omega), if_pos hhigh, hmod]
  simp only [tails, Nat.pow_zero, Nat.div_one, Nat.pow_one]

/-- Four bytes above U+FFFF. -/
theorem encode_four {n : Nat} (hvalid : n.isValidChar) (hlow : 0xFFFF < n) :
    String.utf8EncodeChar (charOf n) = UInt8.ofNat (n / 262144 + 0xF0) :: tails 3 n := by
  have hn : (charOf n).val.toNat = n := toNat_charOf hvalid
  have hmod : n / 262144 % 0x08 = n / 262144 := by
    unfold Nat.isValidChar at hvalid
    exact Nat.mod_eq_of_lt (by omega)
  rw [String.utf8EncodeChar, hn, if_neg (by omega), if_neg (by omega), if_neg (by omega), hmod]
  simp only [tails, Nat.pow_zero, Nat.div_one, Nat.pow_one, Nat.reducePow]

/-! ## 2. One step of the machine

The machine of the program reads a byte string in one recursion.  A step by itself is a
function of what is waited for and of one byte. -/

/-- What a first byte gives out, and what the machine waits for after it. -/
def first (b : Nat) : List (Option Char) × Pending :=
  match start b with
  | some (.inl c) => ([some c], .none)
  | some (.inr p) => ([], p)
  | none => ([none], .none)

/-- What a byte gives out, and what the machine waits for after it. -/
def step : Pending → Nat → List (Option Char) × Pending
  | .none, b => first b
  | .due more low high value, b =>
    if low ≤ b ∧ b ≤ high then
      let value := value * 64 + (b - 0x80)
      if more ≤ 1 then ([some (charOf value)], .none) else ([], .due (more - 1) 0x80 0xBF value)
    else (none :: (first b).1, (first b).2)

theorem decodeFrom_none_cons (b : UInt8) (bs : List UInt8) :
    decodeFrom .none (b :: bs) = (first b.toNat).1 ++ decodeFrom (first b.toNat).2 bs := by
  rw [decodeFrom, first]
  cases start b.toNat with
  | none => rfl
  | some x => cases x <;> rfl

/-- **The machine goes step by step.** -/
theorem decodeFrom_cons (p : Pending) (b : UInt8) (bs : List UInt8) :
    decodeFrom p (b :: bs) = (step p b.toNat).1 ++ decodeFrom (step p b.toNat).2 bs := by
  cases p with
  | none => exact decodeFrom_none_cons b bs
  | due more low high value =>
    rw [decodeFrom, step]
    by_cases hdue : low ≤ b.toNat ∧ b.toNat ≤ high
    · rw [if_pos hdue, if_pos hdue]
      dsimp only
      split
      · rfl
      · rfl
    · rw [if_neg hdue, if_neg hdue, List.cons_append, ← decodeFrom_none_cons, decodeFrom]
      cases start b.toNat with
      | none => rfl
      | some x => cases x <;> rfl

/-- **Bytes that are waited for**: after the bytes of `lead` so many more, the next one in a range,
make the encoding of one character with them. -/
structure Awaits (lead : List UInt8) (more low high value : Nat) : Prop where
  lead_ne : lead ≠ []
  more_pos : 1 ≤ more
  low_ge : 0x80 ≤ low
  high_le : high ≤ 0xBF
  read : ∀ n, n / 64 ^ more = value → low ≤ n / 64 ^ (more - 1) % 64 + 0x80 →
    n / 64 ^ (more - 1) % 64 + 0x80 ≤ high →
    n.isValidChar ∧ String.utf8EncodeChar (charOf n) = lead ++ tails more n

/-- **What the machine has read** and waits for: nothing, or the first bytes of a character. -/
def Pending.Reads (lead : List UInt8) : Pending → Prop
  | .none => lead = []
  | .due more low high value => Awaits lead more low high value

theorem Pending.reads_none : Pending.none.Reads [] := rfl

/-! ## 3. First bytes

A first byte is one of five kinds: ASCII, the first of two, of three or of four, or none at
all. -/

section Starts

variable {b : Nat}

theorem start_of_lt (h : b < 0x80) : start b = some (.inl (charOf b)) := if_pos h

theorem start_two (hlow : 0xC2 ≤ b) (hhigh : b < 0xE0) :
    start b = some (.inr (.due 1 0x80 0xBF (b - 0xC0))) := by
  rw [start, if_neg (by omega), if_neg (by omega), if_pos hhigh]

theorem start_three (hlow : 0xE0 ≤ b) (hhigh : b < 0xF0) :
    start b = some (.inr (.due 2 (if b = 0xE0 then 0xA0 else 0x80)
      (if b = 0xED then 0x9F else 0xBF) (b - 0xE0))) := by
  rw [start, if_neg (by omega), if_neg (by omega), if_neg (by omega), if_pos hhigh]

theorem start_four (hlow : 0xF0 ≤ b) (hhigh : b < 0xF5) :
    start b = some (.inr (.due 3 (if b = 0xF0 then 0x90 else 0x80)
      (if b = 0xF4 then 0x8F else 0xBF) (b - 0xF0))) := by
  rw [start, if_neg (by omega), if_neg (by omega), if_neg (by omega), if_neg (by omega),
    if_pos hhigh]

/-- A byte that goes on with a character begins none; neither does one that would begin an
overlong form or a code point that is too large. -/
theorem start_none (h : 0x80 ≤ b ∧ b < 0xC2 ∨ 0xF5 ≤ b) : start b = none := by
  unfold start
  repeat' split
  all_goals first | rfl | omega

end Starts

theorem encode_ascii {b : UInt8} (h : b.toNat < 0x80) :
    String.utf8EncodeChar (charOf b.toNat) = [b] := by
  rw [encode_one (Nat.le_of_lt_succ h), UInt8.ofNat_toNat]

theorem isValidChar_iff {n : Nat} : n.isValidChar ↔ n < 0xD800 ∨ 0xDFFF < n ∧ n < 0x110000 :=
  Iff.rfl

section Firsts

variable {b : UInt8}

/-- A first byte holds the first digits of a code point above a base. -/
theorem awaits_first {more low high base : Nat} (hmore : 1 ≤ more) (hlow : 0x80 ≤ low)
    (hhigh : high ≤ 0xBF) (hbase : base ≤ b.toNat)
    (hread : ∀ n, n / 64 ^ more = b.toNat - base → low ≤ n / 64 ^ (more - 1) % 64 + 0x80 →
      n / 64 ^ (more - 1) % 64 + 0x80 ≤ high → n.isValidChar ∧
        String.utf8EncodeChar (charOf n) = UInt8.ofNat (n / 64 ^ more + base) :: tails more n) :
    Awaits [b] more low high (b.toNat - base) := by
  refine ⟨nofun, hmore, hlow, hhigh, fun n hn hge hle => ?_⟩
  obtain ⟨hvalid, hencode⟩ := hread n hn hge hle
  rw [hn, Nat.sub_add_cancel hbase, UInt8.ofNat_toNat] at hencode
  exact ⟨hvalid, hencode⟩

/-- Below 0xC2 a first byte of two would write an ASCII character. -/
theorem awaits_two (hlow : 0xC2 ≤ b.toNat) (hhigh : b.toNat < 0xE0) :
    Awaits [b] 1 0x80 0xBF (b.toNat - 0xC0) := by
  refine awaits_first (by omega) (by omega) (by omega) (by omega) fun n hn _ _ => ?_
  rw [Nat.pow_one] at hn ⊢
  exact ⟨.inl (by omega), encode_two (by omega) (by omega)⟩

/-- The first of three bytes says enough about the second one to exclude code points that are
written with fewer bytes and surrogates. -/
theorem awaits_three (hlow : 0xE0 ≤ b.toNat) (hhigh : b.toNat < 0xF0) :
    Awaits [b] 2 (if b.toNat = 0xE0 then 0xA0 else 0x80) (if b.toNat = 0xED then 0x9F else 0xBF)
      (b.toNat - 0xE0) := by
  refine awaits_first (by omega) (by split <;> omega) (by split <;> omega) hlow
    fun n hn hge hle => ?_
  simp only [Nat.reducePow, Nat.reduceSub] at hn hge hle ⊢
  have hlong : b.toNat = 0xE0 → 0x20 ≤ n / 64 % 64 := by
    intro h
    rw [if_pos h] at hge
    omega
  have hplain : b.toNat = 0xED → n / 64 % 64 < 0x20 := by
    intro h
    rw [if_pos h] at hle
    omega
  clear hge hle
  have hvalid : n.isValidChar := by
    rw [isValidChar_iff]
    omega
  exact ⟨hvalid, encode_three hvalid (by omega) (by omega)⟩

/-- The first of four bytes says enough about the second one to exclude code points that are
written with fewer bytes and those that are too large. -/
theorem awaits_four (hlow : 0xF0 ≤ b.toNat) (hhigh : b.toNat < 0xF5) :
    Awaits [b] 3 (if b.toNat = 0xF0 then 0x90 else 0x80) (if b.toNat = 0xF4 then 0x8F else 0xBF)
      (b.toNat - 0xF0) := by
  refine awaits_first (by omega) (by split <;> omega) (by split <;> omega) hlow
    fun n hn hge hle => ?_
  simp only [Nat.reducePow, Nat.reduceSub] at hn hge hle ⊢
  have hlong : b.toNat = 0xF0 → 0x10 ≤ n / 4096 % 64 := by
    intro h
    rw [if_pos h] at hge
    omega
  have hsmall : b.toNat = 0xF4 → n / 4096 % 64 < 0x10 := by
    intro h
    rw [if_pos h] at hle
    omega
  clear hge hle
  have hvalid : n.isValidChar := by
    rw [isValidChar_iff]
    omega
  exact ⟨hvalid, encode_four hvalid (by omega)⟩

/-- **A first byte**: ill-formed, a character by itself, or the start of a longer one. -/
theorem start_cases (b : UInt8) :
    start b.toNat = none ∨
      b.toNat < 0x80 ∧ start b.toNat = some (.inl (charOf b.toNat)) ∨
      ∃ p : Pending, p.Reads [b] ∧ start b.toNat = some (.inr p) := by
  by_cases hone : b.toNat < 0x80
  · exact .inr (.inl ⟨hone, start_of_lt hone⟩)
  by_cases hnone : b.toNat < 0xC2 ∨ 0xF5 ≤ b.toNat
  · exact .inl (start_none (by omega))
  refine .inr (.inr ?_)
  by_cases htwo : b.toNat < 0xE0
  · exact ⟨.due .., awaits_two (by omega) htwo, start_two (by omega) htwo⟩
  by_cases hthree : b.toNat < 0xF0
  · exact ⟨.due .., awaits_three (by omega) hthree, start_three (by omega) hthree⟩
  · exact ⟨.due .., awaits_four (by omega) (by omega), start_four (by omega) (by omega)⟩

end Firsts

/-! ## 4. What a step keeps

A byte that is not in the range waited for breaks off the character and is looked at as a first
byte, which may begin a new one. -/

/-- What the machine gives out, as it is written. -/
def written (x : Option Char) : List UInt8 := String.utf8EncodeChar (x.getD '\uFFFD')

/-- What a byte makes of a state that reads the bytes of `lead`: unless it gives out that
something is ill-formed, the characters given out and the bytes that are read account for all
bytes; and an ASCII character is the byte itself. -/
structure Accounts (lead : List UInt8) (b : UInt8) (out : List (Option Char)) (p : Pending) :
    Prop where
  bytes : ∃ lead', p.Reads lead' ∧
    ((∀ x ∈ out, x.isSome = true) → out.flatMap written ++ lead' = lead ++ [b])
  ascii : ∀ c, some c ∈ out → c.toNat < 0x80 → c = charOf b.toNat

/-- A first byte is given out, or read, or ill-formed. -/
theorem accounts_first (b : UInt8) : Accounts [] b (first b.toNat).1 (first b.toNat).2 := by
  unfold first
  obtain hstart | ⟨hlt, hstart⟩ | ⟨p, hreads, hstart⟩ := start_cases b
  · rw [hstart]
    exact ⟨⟨[], rfl, fun h => absurd (h none List.mem_cons_self) nofun⟩, by simp⟩
  · rw [hstart]
    refine ⟨⟨[], rfl, fun _ => ?_⟩, by simp⟩
    show String.utf8EncodeChar (charOf b.toNat) ++ [] ++ [] = [] ++ [b]
    rw [encode_ascii hlt]
    rfl
  · rw [hstart]
    exact ⟨⟨[b], hreads, fun _ => rfl⟩, by simp⟩

theorem length_encode {c : Char} (h : c.toNat < 0x80) : (String.utf8EncodeChar c).length = 1 := by
  rw [← charOf_toNat c, encode_one (Nat.le_of_lt_succ h)]
  rfl

/-- A byte that is waited for. -/
theorem accounts_due {more low high value : Nat} {lead : List UInt8} {b : UInt8}
    (h : Awaits lead more low high value) (hge : low ≤ b.toNat)
    (hle : b.toNat ≤ high) :
    Accounts lead b (step (.due more low high value) b.toNat).1
      (step (.due more low high value) b.toNat).2 := by
  obtain ⟨hlead, hmore, hlow, hhigh, hread⟩ := h
  rw [Utf8.step, if_pos ⟨hge, hle⟩]
  have hlast {n : Nat} (hn : n % 64 = b.toNat - 0x80) : UInt8.ofNat (n % 64 + 0x80) = b := by
    rw [hn, Nat.sub_add_cancel (by omega), UInt8.ofNat_toNat]
  split
  · obtain rfl : more = 1 := by omega
    obtain ⟨-, hencode⟩ := hread (value * 64 + (b.toNat - 0x80)) (by omega) (by omega) (by omega)
    simp only [tails, Nat.pow_zero, Nat.div_one] at hencode
    rw [hlast (by omega)] at hencode
    refine ⟨⟨[], rfl, fun _ => ?_⟩, fun c hc hascii => ?_⟩
    · simpa [written] using hencode
    · -- An ASCII character is written as one byte, and this one as at least two.
      have hlength := length_encode hascii
      rw [Option.some.inj (List.mem_singleton.mp hc), hencode, List.length_append,
        List.length_singleton] at hlength
      exact absurd (List.eq_nil_of_length_eq_zero (by omega)) hlead
  · obtain ⟨k, rfl⟩ : ∃ k, more = k + 2 := ⟨more - 2, by omega⟩
    refine ⟨⟨lead ++ [b], ⟨by simp, by omega, by omega, by omega, fun n hn _ _ => ?_⟩,
      fun _ => by simp⟩, by simp⟩
    rw [show k + 2 - 1 = k + 1 from rfl] at hread hn ⊢
    have hrest : n / 64 ^ (k + 2) = value := by
      rw [Nat.pow_succ, ← Nat.div_div_eq_div_mul, hn]
      omega
    obtain ⟨hvalid, hencode⟩ := hread n hrest (by omega) (by omega)
    refine ⟨hvalid, ?_⟩
    rw [hencode, tails, hlast (by omega), List.append_assoc, List.singleton_append]

/-- **One step** keeps account of the bytes that are read. -/
theorem Pending.Reads.step {p : Pending} {lead : List UInt8} (h : p.Reads lead) (b : UInt8) :
    Accounts lead b (step p b.toNat).1 (step p b.toNat).2 := by
  cases p with
  | none =>
    cases h
    exact accounts_first b
  | due more low high value =>
    by_cases hdue : low ≤ b.toNat ∧ b.toNat ≤ high
    · exact accounts_due h hdue.1 hdue.2
    · rw [Utf8.step, if_neg hdue]
      obtain ⟨⟨lead', hreads, -⟩, hascii⟩ := accounts_first b
      refine ⟨⟨lead', hreads, fun h => absurd (h Option.none List.mem_cons_self) nofun⟩,
        fun c hc => hascii c ?_⟩
      simpa using hc

/-! ## 5. Whole byte strings

What a step keeps, a whole byte string keeps, by induction on it with the bytes that were read
generalized. -/

/-- **Nothing is lost**: where nothing is ill-formed, what is given out is written as the bytes
that were read. -/
theorem written_decodeFrom {p : Pending} {lead : List UInt8} (h : p.Reads lead) (bs : List UInt8)
    (hvalid : ∀ x ∈ decodeFrom p bs, x.isSome = true) :
    (decodeFrom p bs).flatMap written = lead ++ bs := by
  induction bs generalizing p lead with
  | nil =>
    cases p with
    | none => rw [show lead = [] from h]; rfl
    | due => exact absurd (hvalid none List.mem_cons_self) nofun
  | cons b bs ih =>
    obtain ⟨⟨lead', hreads, hbytes⟩, -⟩ := h.step b
    rw [decodeFrom_cons, List.forall_mem_append] at hvalid
    rw [decodeFrom_cons, List.flatMap_append, ih hreads hvalid.2, ← List.append_assoc,
      hbytes hvalid.1, List.append_assoc]
    rfl

theorem isValid_iff {bs : List UInt8} : isValid bs = true ↔ ∀ x ∈ decode bs, x.isSome = true :=
  List.all_eq_true

theorem toNat_tail (n k : Nat) :
    (UInt8.ofNat (n / 64 ^ k % 64 + 0x80)).toNat = n / 64 ^ k % 64 + 0x80 := by
  rw [UInt8.toNat_ofNat']
  omega

/-- The digit of a tail, taken into the value, makes the value of one digit more. -/
theorem value_tail (n k : Nat) :
    n / 64 ^ (k + 1) * 64 + (n / 64 ^ k % 64 + 0x80 - 0x80) = n / 64 ^ k := by
  rw [Nat.pow_succ, ← Nat.div_div_eq_div_mul]
  omega

/-- Bytes that are waited for, and then others. -/
theorem decodeFrom_tails {low high k n : Nat} (hlow : low ≤ n / 64 ^ k % 64 + 0x80)
    (hhigh : n / 64 ^ k % 64 + 0x80 ≤ high) (bs : List UInt8) :
    decodeFrom (.due (k + 1) low high (n / 64 ^ (k + 1))) (tails (k + 1) n ++ bs) =
      some (charOf n) :: decodeFrom .none bs := by
  induction k generalizing low high with
  | zero =>
    rw [tails, List.cons_append, decodeFrom_cons, toNat_tail, step, if_pos ⟨hlow, hhigh⟩,
      value_tail, Nat.pow_zero, Nat.div_one]
    rfl
  | succ k ih =>
    rw [tails, List.cons_append, decodeFrom_cons, toNat_tail, step, if_pos ⟨hlow, hhigh⟩,
      value_tail, if_neg (by omega)]
    exact ih (by omega) (by omega)

theorem decodeFrom_start {b : Nat} {p : Pending} (h : start b = some (.inr p)) (hb : b < 256)
    (bs : List UInt8) : decodeFrom .none (UInt8.ofNat b :: bs) = decodeFrom p bs := by
  rw [decodeFrom_none_cons, UInt8.toNat_ofNat', Nat.mod_eq_of_lt hb, first, h]
  rfl

/-- The encoding of a character is read as the character, whatever follows. -/
theorem decodeFrom_encode (c : Char) (bs : List UInt8) :
    decodeFrom .none (String.utf8EncodeChar c ++ bs) = some c :: decodeFrom .none bs := by
  obtain ⟨n, hvalid, rfl⟩ : ∃ n, n.isValidChar ∧ charOf n = c := ⟨_, c.valid, charOf_toNat c⟩
  have hrange := isValidChar_iff.mp hvalid
  by_cases hone : n ≤ 0x7F
  · have hbyte : (UInt8.ofNat n).toNat = n := by
      rw [UInt8.toNat_ofNat']
      omega
    rw [encode_one hone, List.singleton_append, decodeFrom_none_cons, hbyte, first,
      start_of_lt (by omega)]
    rfl
  by_cases htwo : n ≤ 0x7FF
  · rw [encode_two (by omega) htwo, List.cons_append,
      decodeFrom_start (start_two (by omega) (by omega)) (by omega), Nat.add_sub_cancel,
      show n / 64 = n / 64 ^ 1 from rfl]
    exact decodeFrom_tails (by omega) (by omega) bs
  by_cases hthree : n ≤ 0xFFFF
  · rw [encode_three hvalid (by omega) hthree, List.cons_append,
      decodeFrom_start (start_three (by omega) (by omega)) (by omega), Nat.add_sub_cancel,
      show n / 4096 = n / 64 ^ 2 from rfl]
    refine decodeFrom_tails ?_ ?_ bs
    · rw [Nat.pow_one]
      split <;> omega
    · rw [Nat.pow_one]
      split <;> omega
  · rw [encode_four hvalid (by omega), List.cons_append,
      decodeFrom_start (start_four (by omega) (by omega)) (by omega), Nat.add_sub_cancel,
      show n / 262144 = n / 64 ^ 3 from rfl]
    refine decodeFrom_tails ?_ ?_ bs
    · rw [show 64 ^ 2 = 4096 from rfl]
      split <;> omega
    · rw [show 64 ^ 2 = 4096 from rfl]
      split <;> omega

/-- **Writing and reading back.** -/
theorem decode_encode (s : String) : decode (encode s) = s.toList.map some := by
  unfold decode encode
  induction s.toList with
  | nil => rfl
  | cons c cs ih => rw [List.flatMap_cons, decodeFrom_encode, ih, List.map_cons]

/-- **What a text is written as** is well-formed. -/
theorem isValid_encode (s : String) : isValid (encode s) = true := by
  rw [isValid_iff, decode_encode]
  simp

/-- An ASCII byte is in no range that is waited for. -/
theorem decodeFrom_append_ascii {p : Pending} {lead : List UInt8} (h : p.Reads lead)
    (xs : List UInt8) {b : UInt8} (hb : b.toNat < 0x80) (ys : List UInt8) :
    decodeFrom p (xs ++ b :: ys) =
      decodeFrom p xs ++ some (charOf b.toNat) :: decodeFrom .none ys := by
  induction xs generalizing p lead with
  | nil =>
    have hfirst : first b.toNat = ([some (charOf b.toNat)], .none) := by
      rw [first, start_of_lt hb]
    rw [List.nil_append, decodeFrom_cons]
    cases p with
    | none =>
      rw [step, hfirst]
      rfl
    | due more low high value =>
      rw [step, if_neg fun hdue => absurd (Nat.le_trans h.low_ge hdue.1) (Nat.not_le.mpr hb),
        hfirst]
      rfl
  | cons x xs ih =>
    obtain ⟨⟨lead', hreads, -⟩, -⟩ := h.step x
    rw [List.cons_append, decodeFrom_cons, ih hreads, decodeFrom_cons, List.append_assoc]

/-- **An ASCII byte is a character by itself** and breaks off what stands before it. -/
theorem decode_append_ascii (xs : List UInt8) {b : UInt8} (hb : b.toNat < 0x80)
    (ys : List UInt8) :
    decode (xs ++ b :: ys) = decode xs ++ some (charOf b.toNat) :: decode ys :=
  decodeFrom_append_ascii Pending.reads_none xs hb ys

theorem isValid_append_ascii (xs : List UInt8) {b : UInt8} (hb : b.toNat < 0x80)
    (ys : List UInt8) : isValid (xs ++ b :: ys) = (isValid xs && isValid ys) := by
  rw [isValid, decode_append_ascii xs hb, List.all_append, List.all_cons]
  rfl

theorem mem_of_mem_decodeFrom {p : Pending} {lead : List UInt8} (h : p.Reads lead)
    {bs : List UInt8} {c : Char} (hc : some c ∈ decodeFrom p bs) (hascii : c.toNat < 0x80) :
    ∃ b ∈ bs, c = charOf b.toNat := by
  induction bs generalizing p lead with
  | nil => cases p <;> simp [decodeFrom] at hc
  | cons b bs ih =>
    obtain ⟨⟨lead', hreads, -⟩, hfrom⟩ := h.step b
    rw [decodeFrom_cons, List.mem_append] at hc
    rcases hc with hc | hc
    · exact ⟨b, List.mem_cons_self, hfrom c hc hascii⟩
    · obtain ⟨b', hb', hc'⟩ := ih hreads hc
      exact ⟨b', List.mem_cons_of_mem _ hb', hc'⟩

/-- Something is given out for every byte string, though not at every byte. -/
theorem decodeFrom_eq_nil {p : Pending} {lead bs : List UInt8} (h : p.Reads lead)
    (hnil : decodeFrom p bs = []) : p = .none ∧ bs = [] := by
  induction bs generalizing p lead with
  | nil =>
    cases p with
    | none => exact ⟨rfl, rfl⟩
    | due => cases hnil
  | cons b bs ih =>
    obtain ⟨⟨lead', hreads, hbytes⟩, -⟩ := h.step b
    rw [decodeFrom_cons, List.append_eq_nil_iff] at hnil
    -- A step that gives out nothing has read its byte, so it still waits for others.
    rw [hnil.1] at hbytes
    have hread := hbytes nofun
    rw [(ih hreads hnil.2).1] at hreads
    rw [show lead' = [] from hreads] at hread
    simp at hread

/-! ## 6. Characters that stand for bytes

Shown are the characters with the replacement for what is ill-formed, and so every byte string
has a text that it is shown as. -/

/-- The characters that a byte string is shown with. -/
def shown (bs : List UInt8) : List Char := (decode bs).map (·.getD '\uFFFD')

theorem toList_decodeLossy (bs : List UInt8) : (decodeLossy bs).toList = shown bs :=
  String.toList_ofList

/-- **Reading and writing back.**  A well-formed byte string is what its text is written as. -/
theorem encode_decodeLossy {bs : List UInt8} (h : isValid bs = true) :
    encode (decodeLossy bs) = bs := by
  rw [encode, toList_decodeLossy, shown, List.flatMap_map]
  exact written_decodeFrom Pending.reads_none bs (isValid_iff.mp h)

theorem shown_eq_nil_iff {bs : List UInt8} : shown bs = [] ↔ bs = [] := by
  constructor
  · intro h
    exact (decodeFrom_eq_nil Pending.reads_none (List.map_eq_nil_iff.mp h)).2
  · rintro rfl
    rfl

theorem shown_append_ascii (xs : List UInt8) {b : UInt8} (hb : b.toNat < 0x80)
    (ys : List UInt8) : shown (xs ++ b :: ys) = shown xs ++ charOf b.toNat :: shown ys := by
  rw [shown, decode_append_ascii xs hb, List.map_append, List.map_cons]
  rfl

/-- **No other bytes** are shown with an ASCII character. -/
theorem mem_of_mem_shown {bs : List UInt8} {c : Char} (hc : c ∈ shown bs)
    (hascii : c.toNat < 0x80) : ∃ b ∈ bs, b.toNat = c.toNat := by
  obtain ⟨x, hx, rfl⟩ := List.mem_map.mp hc
  cases x with
  | none => exact absurd hascii (by decide)
  | some c =>
    obtain ⟨b, hb, heq⟩ := mem_of_mem_decodeFrom Pending.reads_none hx hascii
    have hlt := b.toNat_lt
    refine ⟨b, hb, ?_⟩
    rw [Option.getD_some, heq, toNat_charOf (.inl (by omega))]

end LintRun.Utf8

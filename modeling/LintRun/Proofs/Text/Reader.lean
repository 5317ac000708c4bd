import LintRun.Text.Reader
import Mathlib.Data.List.Forall2

/-!
# What readers read

Each way to put readers together is taken apart by one equivalence (`bind_eq_some_iff`,
`orElse_eq_some_iff`, `many_eq_some_iff`, `sepBy1_eq_some_iff`), so that a proof about a reader
names what its parts read and what is left of the text, and never looks inside.

Repeated reading is a row of readings (`Row`); it goes on for as long as something can be read,
provided that every reading takes something (`Consumes`).

The equivalences are stated for success only.  That a reader fails is needed in two places:
where a second reader is tried because a first one failed, and at the end of repeated reading;
and there "reads nothing" is what has to be known, and no more.

`many` is written with a bound on the number of readings, the length of the text, so that it
can be computed.  A reader that consumes cannot use up the bound before the text
(`upTo_eq_some_iff`), and from then on the bound is not seen again.

For texts with a grammar there are two notions, which are proved for a reader together with the
readers that it is made of.  `Sound` says that what is taken off is a text of the grammar;
`Complete` that a text of the grammar is taken off, up to something that may follow it.
`Yields` is for properties of what is read, where the text does not matter.
-/

namespace LintRun.Reader

variable {α β : Type} {cs cs' : List Char}

/-! ## 1. One reading after another

The equivalences are simplification rules: they turn a reader into what its parts read and what
is left. -/

@[simp] theorem pure_eq_some_iff {a b : α} :
    (pure a : Reader α) cs = some (b, cs') ↔ a = b ∧ cs = cs' := by
  show some (a, cs) = some (b, cs') ↔ _
  rw [Option.some.injEq, Prod.mk.injEq]

@[simp] theorem failure_eq_some_iff {x : α × List Char} :
    (failure : Reader α) cs = some x ↔ False := by
  refine iff_false_intro fun h => ?_
  cases (show none = some x from h)

@[simp] theorem bind_eq_some_iff {p : Reader α} {f : α → Reader β} {b : β} :
    (p >>= f) cs = some (b, cs') ↔
      ∃ a rest, p cs = some (a, rest) ∧ f a rest = some (b, cs') := by
  show (p cs >>= fun x => f x.1 x.2) = _ ↔ _
  rw [Option.bind_eq_bind, Option.bind_eq_some_iff]
  exact ⟨fun ⟨x, hx, hf⟩ => ⟨x.1, x.2, hx, hf⟩, fun ⟨a, rest, ha, hf⟩ => ⟨(a, rest), ha, hf⟩⟩

/-- Where the first reads nothing, nothing is read. -/
theorem bind_eq_none {p : Reader α} {f : α → Reader β} (h : p cs = none) :
    (p >>= f) cs = none := by
  show (p cs >>= fun x => f x.1 x.2) = none
  rw [h]
  rfl

@[simp] theorem orElse_eq_some_iff {p q : Reader α} {x : α × List Char} :
    (p <|> q) cs = some x ↔ p cs = some x ∨ p cs = none ∧ q cs = some x := by
  show (p cs <|> q cs) = some x ↔ _
  cases p cs with
  | none => simp
  | some y => simp

@[simp] theorem satisfy_eq_some_iff {test : Char → Bool} {c : Char} :
    satisfy test cs = some (c, cs') ↔ cs = c :: cs' ∧ test c = true := by
  cases cs with
  | nil => simp [satisfy]
  | cons d ds =>
    rw [satisfy]
    split
    · rename_i htest
      constructor
      · intro h
        cases h
        exact ⟨rfl, htest⟩
      · rintro ⟨h, -⟩
        cases h
        rfl
    · rename_i htest
      refine iff_of_false (fun h => by cases h) ?_
      rintro ⟨h, hc⟩
      cases h
      exact htest hc

@[simp] theorem char_eq_some_iff {c : Char} {u : Unit} :
    char c cs = some (u, cs') ↔ cs = c :: cs' := by
  simp only [char, bind_eq_some_iff, satisfy_eq_some_iff, pure_eq_some_iff, beq_iff_eq]
  constructor
  · rintro ⟨_, _, ⟨rfl, rfl⟩, -, rfl⟩
    rfl
  · rintro rfl
    exact ⟨c, cs', ⟨rfl, rfl⟩, trivial, rfl⟩

@[simp] theorem takeWhile_eq_some_iff {test : Char → Bool} {ds : List Char} :
    takeWhile test cs = some (ds, cs') ↔ cs.takeWhile test = ds ∧ cs.dropWhile test = cs' := by
  show some (_, _) = some (ds, cs') ↔ _
  rw [Option.some.injEq, Prod.mk.injEq]

/-- What is left does not start with a character of a class. -/
def StartsOff (test : Char → Bool) (cs : List Char) : Prop := ∀ c ∈ cs.head?, test c = false

theorem startsOff_nil (test : Char → Bool) : StartsOff test [] := nofun

theorem startsOff_cons {test : Char → Bool} {c : Char} (h : test c = false) :
    StartsOff test (c :: cs) := fun _ hd => Option.some.inj hd ▸ h

theorem startsOff_dropWhile (test : Char → Bool) : StartsOff test (cs.dropWhile test) := by
  induction cs with
  | nil => exact startsOff_nil test
  | cons c cs ih =>
    by_cases hc : test c = true
    · rw [List.dropWhile_cons_of_pos hc]
      exact ih
    · rw [List.dropWhile_cons_of_neg hc]
      exact startsOff_cons (Bool.not_eq_true _ ▸ hc)

/-- **A stretch of a class** is taken up to its end. -/
theorem takeWhile_append {test : Char → Bool} {ds : List Char} (hds : ∀ c ∈ ds, test c = true)
    (hcs : StartsOff test cs) : takeWhile test (ds ++ cs) = some (ds, cs) := by
  rw [takeWhile_eq_some_iff, List.takeWhile_append_of_pos hds, List.dropWhile_append_of_pos hds]
  cases cs with
  | nil => simp
  | cons c cs =>
    have hc : ¬test c = true := Bool.not_eq_true _ ▸ hcs c rfl
    rw [List.takeWhile_cons_of_neg hc, List.dropWhile_cons_of_neg hc, List.append_nil]
    exact ⟨rfl, rfl⟩

/-- So many characters of a class, and it does not matter what follows them. -/
theorem takeExactly_eq_some_iff {test : Char → Bool} {n : Nat} {ds : List Char} :
    takeExactly test n cs = some (ds, cs') ↔
      cs = ds ++ cs' ∧ ds.length = n ∧ ∀ c ∈ ds, test c = true := by
  induction n generalizing cs cs' ds with
  | zero =>
    rw [takeExactly, pure_eq_some_iff]
    constructor
    · rintro ⟨rfl, rfl⟩
      simp
    · rintro ⟨rfl, hlength, -⟩
      rw [List.length_eq_zero_iff.mp hlength]
      simp
  | succ n ih =>
    simp only [takeExactly, bind_eq_some_iff, satisfy_eq_some_iff, ih, pure_eq_some_iff]
    constructor
    · rintro ⟨c, _, ⟨rfl, hc⟩, ds, _, ⟨rfl, rfl, hds⟩, rfl, rfl⟩
      refine ⟨rfl, rfl, List.forall_mem_cons.mpr ⟨hc, hds⟩⟩
    · rintro ⟨rfl, hlength, hds⟩
      obtain ⟨c, ds, rfl⟩ := List.exists_cons_of_length_eq_add_one hlength
      obtain ⟨hc, hds⟩ := List.forall_mem_cons.mp hds
      exact ⟨c, _, ⟨rfl, hc⟩, ds, _, ⟨rfl, Nat.succ.inj hlength, hds⟩, rfl, rfl⟩

theorem takeWhile1_eq_some_iff {test : Char → Bool} {ds : List Char} :
    takeWhile1 test cs = some (ds, cs') ↔
      ds ≠ [] ∧ cs.takeWhile test = ds ∧ cs.dropWhile test = cs' := by
  simp only [takeWhile1, bind_eq_some_iff, takeWhile_eq_some_iff]
  constructor
  · rintro ⟨ds', rest, ⟨hds, hrest⟩, h⟩
    cases ds' with
    | nil => cases h
    | cons d ds' =>
      obtain ⟨rfl, rfl⟩ := pure_eq_some_iff.mp h
      exact ⟨List.cons_ne_nil _ _, hds, hrest⟩
  · rintro ⟨hne, hds, hrest⟩
    refine ⟨ds, cs', ⟨hds, hrest⟩, ?_⟩
    cases ds with
    | nil => exact absurd rfl hne
    | cons d ds => rfl

/-- **A whole text** is read when nothing of it is left. -/
theorem run_eq_some_iff {p : Reader α} {a : α} : p.run cs = some a ↔ p cs = some (a, []) := by
  rw [run]
  split
  · rename_i hread
    simp [hread]
  · rename_i hread
    exact iff_of_false nofun (hread a)

/-! ## 2. Repeated reading

A row of readings has no bound in it and does not say where it stops. -/

/-- **A reader that takes something** whenever it reads. -/
def Consumes (p : Reader α) : Prop :=
  ∀ cs a cs', p cs = some (a, cs') → cs'.length < cs.length

/-- **A row of readings**, each where the one before it ended. -/
inductive Row (p : Reader α) : List Char → List α → List Char → Prop
  | nil (cs : List Char) : Row p cs [] cs
  | cons {cs rest cs' : List Char} {a : α} {as : List α} (h : p cs = some (a, rest))
      (more : Row p rest as cs') : Row p cs (a :: as) cs'

variable {p : Reader α} {as : List α}

/-- **The bound does not show**: as many readings as there are characters are enough for a
reader that takes something each time. -/
theorem upTo_eq_some_iff (hp : Consumes p) {n : Nat} (hn : cs.length ≤ n) :
    upTo p n cs = some (as, cs') ↔ Row p cs as cs' ∧ p cs' = none := by
  induction n generalizing cs as with
  | zero =>
    obtain rfl : cs = [] := List.length_eq_zero_iff.mp (Nat.le_zero.mp hn)
    have hnone : p [] = none := by
      cases h : p [] with
      | none => rfl
      | some x => exact absurd (hp _ _ _ h) (Nat.not_lt_zero _)
    rw [upTo, pure_eq_some_iff]
    constructor
    · rintro ⟨rfl, rfl⟩
      exact ⟨.nil _, hnone⟩
    · rintro ⟨hrow, -⟩
      cases hrow with
      | nil => exact ⟨rfl, rfl⟩
      | cons h more =>
        rw [hnone] at h
        cases h
  | succ n ih =>
    cases hread : p cs with
    | none =>
      simp only [upTo, hread]
      constructor
      · intro h
        cases h
        exact ⟨.nil _, hread⟩
      · rintro ⟨hrow, -⟩
        cases hrow with
        | nil => rfl
        | cons h more =>
          rw [hread] at h
          cases h
    | some x =>
      obtain ⟨a, rest⟩ := x
      have hless : rest.length < cs.length := hp _ _ _ hread
      have hstep (bs : List α) :
          upTo p n rest = some (bs, cs') ↔ Row p rest bs cs' ∧ p cs' = none :=
        ih (Nat.le_of_lt_succ (Nat.lt_of_lt_of_le hless hn))
      simp only [upTo, hread, if_pos hless]
      constructor
      · intro h
        cases hmore : upTo p n rest with
        | none =>
          rw [hmore] at h
          cases h
        | some y =>
          obtain ⟨bs, last⟩ := y
          rw [hmore] at h
          cases h
          obtain ⟨hrow, hend⟩ := (hstep bs).mp hmore
          exact ⟨.cons hread hrow, hend⟩
      · rintro ⟨hrow, hend⟩
        cases hrow with
        | nil =>
          rw [hread] at hend
          cases hend
        | cons h more =>
          rw [hread] at h
          cases h
          rw [(hstep _).mpr ⟨more, hend⟩]

/-- **Reading as often as possible** is a row of readings after which there is none. -/
theorem many_eq_some_iff (hp : Consumes p) :
    many p cs = some (as, cs') ↔ Row p cs as cs' ∧ p cs' = none :=
  upTo_eq_some_iff hp (Nat.le_refl _)

/-- What a reader reads is a text of what it gives. -/
def Sound (p : Reader α) (G : List Char → α → Prop) : Prop :=
  ∀ cs a cs', p cs = some (a, cs') → ∃ s, cs = s ++ cs' ∧ G s a

/-- A reader reads the texts of a value up to a text that can follow them. -/
def Complete (p : Reader α) (G : List Char → α → Prop) (Follows : List Char → Prop) : Prop :=
  ∀ s a, G s a → ∀ cs, Follows cs → p (s ++ cs) = some (a, cs)

variable {G : List Char → α → Prop}

/-- **What is read again and again** is one text after another. -/
theorem sound_many (hp : Sound p G) (hconsumes : Consumes p) :
    Sound (many p) fun s as => ∃ texts, List.Forall₂ G texts as ∧ texts.flatten = s := by
  intro cs as cs' h
  obtain ⟨hrow, -⟩ := (many_eq_some_iff hconsumes).mp h
  clear h
  induction hrow with
  | nil cs => exact ⟨[], rfl, [], .nil, rfl⟩
  | cons hread more ih =>
    obtain ⟨first, rfl, hfirst⟩ := hp _ _ _ hread
    obtain ⟨s, rfl, texts, htexts, rfl⟩ := ih
    exact ⟨first ++ texts.flatten, (List.append_assoc ..).symm, first :: texts,
      .cons hfirst htexts, rfl⟩

/-- **Texts that nothing need follow** are all read, up to something that is none of them. -/
theorem complete_many (hp : Complete p G fun _ => True) (hconsumes : Consumes p)
    {texts : List (List Char)} (htexts : List.Forall₂ G texts as) (hend : p cs = none) :
    many p (texts.flatten ++ cs) = some (as, cs) := by
  refine (many_eq_some_iff hconsumes).mpr ⟨?_, hend⟩
  induction htexts with
  | nil => exact .nil cs
  | cons h more ih =>
    rw [List.flatten_cons, List.append_assoc]
    exact .cons (hp _ _ h _ trivial) ih

/-! ## 3. Items with separators

The first item stands by itself and the others behind separators, which is how a row of items
is read as well. -/

/-- **Texts of items** with a separator between each two. -/
inductive Separated (separator : Char) (G : List Char → α → Prop) : List Char → List α → Prop
  | one {s : List Char} {a : α} (h : G s a) : Separated separator G s [a]
  | more {s t : List Char} {a : α} {as : List α} (h : G s a)
      (more : Separated separator G t as) : Separated separator G (s ++ separator :: t) (a :: as)

section Separated

variable {separator : Char}

/-- Texts of items are texts of them in another sense that covers all texts as short. -/
theorem Separated.mono {H : List Char → α → Prop} {s : List Char}
    (h : Separated separator G s as) {n : Nat} (hn : s.length ≤ n)
    (himp : ∀ t a, t.length ≤ n → G t a → H t a) : Separated separator H s as := by
  induction h with
  | one h => exact .one (himp _ _ hn h)
  | more h more ih =>
    rw [List.length_append, List.length_cons] at hn
    exact .more (himp _ _ (by omega) h) (ih (by omega))

/-- A reader of something behind a separator. -/
def behind (separator : Char) (p : Reader α) : Reader α := do
  char separator
  p

theorem behind_eq_some_iff {a : α} :
    behind separator p cs = some (a, cs') ↔
      ∃ rest, cs = separator :: rest ∧ p rest = some (a, cs') := by
  simp only [behind, bind_eq_some_iff, char_eq_some_iff]
  constructor
  · rintro ⟨_, rest, hcs, hp⟩
    exact ⟨rest, hcs, hp⟩
  · rintro ⟨rest, hcs, hp⟩
    exact ⟨(), rest, hcs, hp⟩

/-- The separator is taken, whatever else is. -/
theorem Sound.consumes_behind (hp : Sound p G) : Consumes (behind separator p) := by
  intro cs a cs' h
  obtain ⟨rest, rfl, hread⟩ := behind_eq_some_iff.mp h
  obtain ⟨s, rfl, -⟩ := hp _ _ _ hread
  simp only [List.length_cons, List.length_append]
  omega

/-- **Items with separators** are an item and then a row of items behind separators. -/
theorem sepBy1_eq_some_iff (hp : Consumes (behind separator p)) :
    sepBy1 p (char separator) cs = some (as, cs') ↔
      ∃ a rest bs, p cs = some (a, rest) ∧ Row (behind separator p) rest bs cs' ∧
        behind separator p cs' = none ∧ a :: bs = as := by
  show (p >>= fun a => many (behind separator p) >>= fun bs => pure (a :: bs)) cs = _ ↔ _
  simp only [bind_eq_some_iff, many_eq_some_iff hp, pure_eq_some_iff]
  constructor
  · rintro ⟨a, rest, hread, bs, _, ⟨hrow, hend⟩, has, rfl⟩
    exact ⟨a, rest, bs, hread, hrow, hend, has⟩
  · rintro ⟨a, rest, bs, hread, hrow, hend, has⟩
    exact ⟨a, rest, hread, bs, cs', ⟨hrow, hend⟩, has, rfl⟩

/-- By induction on the row, with the text of the items so far in front. -/
theorem sound_row (hp : Sound p G) {a : α} {bs : List α} {first rest : List Char} (h : G first a)
    (hrow : Row (behind separator p) rest bs cs') :
    ∃ s, first ++ rest = s ++ cs' ∧ Separated separator G s (a :: bs) := by
  induction hrow generalizing first a with
  | nil cs => exact ⟨first, rfl, .one h⟩
  | cons hread more ih =>
    obtain ⟨later, rfl, hlater⟩ := behind_eq_some_iff.mp hread
    obtain ⟨second, rfl, hsecond⟩ := hp _ _ _ hlater
    obtain ⟨s, hs, hitems⟩ := ih hsecond
    refine ⟨first ++ separator :: s, ?_, .more h hitems⟩
    rw [hs, List.append_assoc, List.cons_append]

/-- **What is read as items** are texts of them with separators. -/
theorem sound_sepBy1 (hp : Sound p G) :
    Sound (sepBy1 p (char separator)) (Separated separator G) := by
  intro cs as cs' h
  obtain ⟨a, rest, bs, hread, hrow, -, rfl⟩ := (sepBy1_eq_some_iff hp.consumes_behind).mp h
  obtain ⟨first, rfl, hfirst⟩ := hp _ _ _ hread
  exact sound_row hp hfirst hrow

/-- **Items with separators are read**, up to what can follow an item and is no separator. -/
theorem complete_sepBy1 (hp : Consumes (behind separator p)) {Follows : List Char → Prop}
    (hcomplete : Complete p G Follows) (hseparator : ∀ cs, Follows (separator :: cs)) :
    Complete (sepBy1 p (char separator)) (Separated separator G)
      fun cs => Follows cs ∧ StartsOff (· == separator) cs := by
  intro s as hitems cs ⟨hfollows, hend⟩
  have hnone : behind separator p cs = none := by
    refine Option.eq_none_iff_forall_ne_some.mpr fun x hread => ?_
    obtain ⟨rest, rfl, -⟩ := behind_eq_some_iff.mp hread
    exact absurd (hend separator rfl) (by simp)
  refine (sepBy1_eq_some_iff hp).mpr ?_
  induction hitems with
  | one h => exact ⟨_, cs, [], hcomplete _ _ h cs hfollows, .nil cs, hnone, rfl⟩
  | @more s t a as h more ih =>
    obtain ⟨b, rest, bs, hread, hrow, -, rfl⟩ := ih
    refine ⟨a, separator :: (t ++ cs), b :: bs, ?_, .cons ?_ hrow, hnone, rfl⟩
    · rw [List.append_assoc]
      exact hcomplete _ _ h _ (hseparator _)
    · exact behind_eq_some_iff.mpr ⟨_, rfl, hread⟩

end Separated

/-! ## 4. What readers give

A reader yields a property if its parts do; there is one lemma for each way to put readers
together. -/

/-- **Whatever a reader gives** has a property. -/
def Yields (P : α → Prop) (p : Reader α) : Prop := ∀ cs a cs', p cs = some (a, cs') → P a

section Yields

variable {P : α → Prop} {Q : β → Prop} {q : Reader α} {f : α → Reader β} {a : α}

theorem yields_pure (h : P a) : Yields P (pure a) := by
  intro cs b cs' hread
  obtain ⟨rfl, -⟩ := pure_eq_some_iff.mp hread
  exact h

theorem yields_failure : Yields P failure := fun _ _ _ hread =>
  (failure_eq_some_iff.mp hread).elim

/-- What the first gives may be used to show what the second gives. -/
theorem Yields.bind (hp : Yields P p) (hf : ∀ a, P a → Yields Q (f a)) :
    Yields Q (p >>= f) := by
  intro cs b cs' hread
  obtain ⟨a, rest, ha, hb⟩ := bind_eq_some_iff.mp hread
  exact hf a (hp _ _ _ ha) _ _ _ hb

theorem yields_bind (hf : ∀ a, Yields Q (f a)) : Yields Q (p >>= f) := by
  intro cs b cs' hread
  obtain ⟨a, rest, -, hb⟩ := bind_eq_some_iff.mp hread
  exact hf a _ _ _ hb

theorem Yields.orElse (hp : Yields P p) (hq : Yields P q) : Yields P (p <|> q) := by
  intro cs b cs' hread
  rcases orElse_eq_some_iff.mp hread with hread | ⟨-, hread⟩
  · exact hp _ _ _ hread
  · exact hq _ _ _ hread

theorem yields_upTo (hp : Yields P p) (n : Nat) : Yields (∀ a ∈ ·, P a) (upTo p n) := by
  induction n with
  | zero => exact yields_pure nofun
  | succ n ih =>
    intro cs as cs' hread
    simp only [upTo] at hread
    split at hread
    · cases hread
      nofun
    · rename_i a rest hfirst
      have ha : P a := hp _ _ _ hfirst
      split at hread
      · split at hread
        · rename_i bs last hmore
          cases hread
          exact List.forall_mem_cons.mpr ⟨ha, ih _ _ _ hmore⟩
        · cases hread
      · cases hread
        exact List.forall_mem_singleton.mpr ha

/-- A property of each item is one of all. -/
theorem Yields.many (hp : Yields P p) : Yields (∀ a ∈ ·, P a) (many p) :=
  fun cs => yields_upTo hp cs.length cs

theorem Yields.sepBy {separator : Reader Unit} (hp : Yields P p) :
    Yields (∀ a ∈ ·, P a) (sepBy p separator) := by
  have hmore : Yields P (do separator; p) := yields_bind fun _ => hp
  refine Yields.orElse ?_ (yields_pure nofun)
  exact hp.bind fun a ha => hmore.many.bind fun as has =>
    yields_pure (List.forall_mem_cons.mpr ⟨ha, has⟩)

end Yields

end LintRun.Reader

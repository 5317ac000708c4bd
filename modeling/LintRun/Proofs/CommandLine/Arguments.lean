import LintRun.Proofs.CommandLine.Options
import Mathlib.Data.List.Forall2
import Mathlib.Data.List.TakeWhile

/-!
# How options are written as arguments

A switch is written with one of its long names, or with others by short names behind one dash; a
setting is written with one of its long names, and its value attached to it or as an argument of
its own (`Written`).  A command line is a row of options that are written so, with or without the
mark at the end after which no flags come (`Writes`).

Arguments that write options are read as these options (`takeArguments_of_writes`), and all
arguments that are read without misuse write some (`exists_writes`).

The reader of arguments has two things to remember: what was given, and whether a setting waits
for its value or holds one that has not been looked at yet (`Pending`).  A value is looked at
when the next flag comes, which matters for the error that is reported and not for what is
accepted.  So every lemma has the settled draft on its right-hand side: taking an argument is
settling what is pending and then giving the options that the argument writes.

* *What is written is read* goes by the shape of the arguments.  Only a setting whose value is
  an argument of its own takes two steps, and between these the reader waits;
  `takeArgument_of_written` keeps that case apart from the others.
* *What is read was written* goes by the reader: from the fact that an argument could be taken
  it is told what it looked like.  The induction needs a second case, for when a value is
  waited for; then the first argument is that value, whatever it looks like as long as it is
  bare.

Nothing is said of the misuse that is reported, only when there is one.
-/

namespace LintRun

/-! ## 1. Written options

Which names there are is a table; everything below treats the table as given, apart from a few
facts that are checked on it, such as that no long name has an equals sign in it. -/

/-- The argument that is a long name. -/
def longArgument (name : String) : List UInt8 := dash :: dash :: Utf8.encode name

/-- An argument that does not look like a flag: no dash in front, or nothing but the dash. -/
def IsBare (arg : List UInt8) : Prop := arg = [dash] ∨ arg.head? ≠ some dash

/-- A byte is the short name of a switch. -/
def IsShortFor (b : UInt8) (s : Switch) : Prop :=
  ∃ c, (c, Flag.switch s) ∈ Flag.shortNames ∧ c.toNat = b.toNat

/-- **How options are written together**: short names in one argument, any other option by
itself. -/
inductive Written : List Given → List (List UInt8) → Prop
  | long {name : String} {s : Switch} (h : (name, .switch s) ∈ Flag.longNames) :
      Written [.on s] [longArgument name]
  | short {bs : List UInt8} {ss : List Switch} (hne : bs ≠ [])
      (h : List.Forall₂ IsShortFor bs ss) : Written (ss.map .on) [dash :: bs]
  | attached {name : String} {s : Setting} {value : List UInt8}
      (h : (name, .setting s) ∈ Flag.longNames) :
      Written [.set s value] [longArgument name ++ equalsSign :: value]
  | separate {name : String} {s : Setting} {value : List UInt8}
      (h : (name, .setting s) ∈ Flag.longNames) (hvalue : IsBare value) :
      Written [.set s value] [longArgument name, value]

/-- **Arguments that write options**, in their order. -/
inductive Writes : List Given → List (List UInt8) → Prop
  | nil : Writes [] []
  | endMark : Writes [] [endMark]
  | cons {gs hs : List Given} {args rest : List (List UInt8)} (h : Written gs args)
      (hrest : Writes hs rest) : Writes (gs ++ hs) (args ++ rest)

/-! ## 2. Names

Names are characters in the table and bytes in an argument. -/

namespace Flag

variable {name : String} {flag : Flag} {bytes : List UInt8} {b : UInt8} {s : Switch}

/-- **A long name** means its flag, and no other. -/
theorem ofLong?_encode (h : (name, flag) ∈ longNames) : ofLong? (Utf8.encode name) = some flag := by
  have hall : ∀ entry ∈ longNames, ofLong? (Utf8.encode entry.1) = some entry.2 := by
    decide +kernel
  exact hall (name, flag) h

theorem exists_of_ofLong? (h : ofLong? bytes = some flag) :
    ∃ name, (name, flag) ∈ longNames ∧ Utf8.encode name = bytes := by
  obtain ⟨entry, hentry, rfl⟩ := Option.map_eq_some_iff.mp h
  exact ⟨entry.1, List.mem_of_find?_eq_some hentry, by simpa using List.find?_some hentry⟩

/-- No name has an equals sign, so the first one of an argument ends the name. -/
theorem equalsSign_not_mem (h : (name, flag) ∈ longNames) : equalsSign ∉ Utf8.encode name := by
  have hall : ∀ entry ∈ longNames, equalsSign ∉ Utf8.encode entry.1 := by decide +kernel
  exact hall (name, flag) h

theorem encode_ne_nil (h : (name, flag) ∈ longNames) : Utf8.encode name ≠ [] := by
  have hall : ∀ entry ∈ longNames, Utf8.encode entry.1 ≠ [] := by decide +kernel
  exact hall (name, flag) h

/-- **A short name** means its switch. -/
theorem ofShort?_of_isShortFor (h : IsShortFor b s) : ofShort? b = some (.switch s) := by
  have hall : ∀ entry ∈ shortNames,
      (shortNames.find? fun e => e.1.toNat = entry.1.toNat).map (·.2) = some entry.2 := by
    decide
  obtain ⟨c, hc, hbyte⟩ := h
  have hfind := hall _ hc
  rw [hbyte] at hfind
  exact hfind

theorem isShortFor_of_ofShort? (h : ofShort? b = some (.switch s)) : IsShortFor b s := by
  obtain ⟨entry, hentry, heq⟩ := Option.map_eq_some_iff.mp h
  exact ⟨entry.1, heq ▸ List.mem_of_find?_eq_some hentry, by simpa using List.find?_some hentry⟩

/-- The dash is no short name. -/
theorem isShortFor_ne_dash (h : IsShortFor b s) : b ≠ dash := by
  rintro rfl
  have hdash := ofShort?_of_isShortFor h
  cases hdash

/-- No setting has a short name. -/
theorem ofShort?_ne_setting (b : UInt8) (k : Setting) : ofShort? b ≠ some (.setting k) := by
  intro h
  obtain ⟨entry, hentry, heq⟩ := Option.map_eq_some_iff.mp h
  have hmem := List.mem_of_find?_eq_some hentry
  simp only [shortNames, List.mem_cons, List.not_mem_nil, or_false] at hmem
  rcases hmem with rfl | rfl | rfl | rfl <;> cases heq

end Flag

section Splitting

variable {name value : List UInt8}

theorem splitLong_of_not_mem (h : equalsSign ∉ name) : splitLong name = (name, none) := by
  have hall : ∀ b ∈ name, (b != equalsSign) = true := fun b hb =>
    bne_iff_ne.mpr fun he => h (he ▸ hb)
  rw [splitLong, List.dropWhile_eq_nil_iff.mpr hall]

theorem splitLong_append (h : equalsSign ∉ name) :
    splitLong (name ++ equalsSign :: value) = (name, some value) := by
  have hall : ∀ b ∈ name, (b != equalsSign) = true := fun b hb =>
    bne_iff_ne.mpr fun he => h (he ▸ hb)
  rw [splitLong, List.dropWhile_append_of_pos hall, List.takeWhile_append_of_pos hall,
    List.dropWhile_cons_of_neg (by simp), List.takeWhile_cons_of_neg (by simp), List.append_nil]

/-- **What a long name is split into** makes it up again. -/
theorem eq_of_splitLong (bytes : List UInt8) :
    match (splitLong bytes).2 with
    | none => (splitLong bytes).1 = bytes
    | some value => (splitLong bytes).1 ++ equalsSign :: value = bytes := by
  have hwhole : bytes.takeWhile (· != equalsSign) ++ bytes.dropWhile (· != equalsSign) = bytes :=
    List.takeWhile_append_dropWhile
  unfold splitLong
  cases hrest : bytes.dropWhile (· != equalsSign) with
  | nil => rfl
  | cons b value =>
    have hb := List.head_dropWhile_not (· != equalsSign) (hrest ▸ List.cons_ne_nil b value)
    simp only [hrest, List.head_cons, bne_eq_false_iff_eq] at hb
    rw [hrest, hb] at hwhole
    exact hwhole

end Splitting

/-! ## 3. Arguments

An argument is bare, or has one dash in front, or two, and these exclude each other. -/

section Arguments

variable {d d' : Draft} {p p' : Pending} {arg : List UInt8} {args : List (List UInt8)}

theorem takeArgument_bare (h : IsBare arg) : takeArgument d p arg = takeValue d p arg := by
  cases arg with
  | nil => rfl
  | cons b bs =>
    rcases h with h | h
    · cases h
      rfl
    · have hb : (b != dash) = true := bne_iff_ne.mpr fun he => h (he ▸ rfl)
      rw [takeArgument, hb]
      rfl

theorem takeArgument_short {b : UInt8} (h : b ≠ dash) (bs : List UInt8) :
    takeArgument d p (dash :: b :: bs) = takeCluster d p (b :: bs) := by
  simp [takeArgument, h]

theorem takeArgument_long (bytes : List UInt8) :
    takeArgument d p (dash :: dash :: bytes) =
      match Flag.ofLong? (splitLong bytes).1 with
      | none => .error (.misuse .unknownArgument)
      | some flag => takeFlag d p (splitLong bytes).2 flag := rfl

/-- What an argument looks like. -/
theorem isBare_or (arg : List UInt8) :
    IsBare arg ∨ (∃ bytes, arg = dash :: dash :: bytes) ∨
      ∃ b bs, b ≠ dash ∧ arg = dash :: b :: bs := by
  cases arg with
  | nil => exact .inl (.inr nofun)
  | cons a bs =>
    by_cases ha : a = dash
    · subst ha
      cases bs with
      | nil => exact .inl (.inl rfl)
      | cons b bs =>
        by_cases hb : b = dash
        · exact .inr (.inl ⟨bs, hb ▸ rfl⟩)
        · exact .inr (.inr ⟨b, bs, hb, rfl⟩)
    · exact .inl (.inr fun h => ha (Option.some.inj h))

/-- Arguments are taken one after another up to the mark. -/
theorem takeArguments_cons (h : arg ≠ endMark) :
    takeArguments d p (arg :: args) =
      takeArgument d p arg >>= fun next => takeArguments next.1 next.2 args := by
  rw [takeArguments, if_neg h]

/-! ## 4. What is written is read

`orMisuse` marks the errors of options as those of a command line.  It goes past one thing
after another, so that it can be kept in front. -/

theorem orMisuse_bind {α β : Type} {x : Except Misuse α} {f : α → Except Misuse β} :
    orMisuse (x >>= f) = orMisuse x >>= fun a => orMisuse (f a) := by
  cases x <;> rfl

/-- A switch settles what is pending and is turned on. -/
theorem takeFlag_switch (d : Draft) (p : Pending) (s : Switch) :
    takeFlag d p none (.switch s) =
      orMisuse (d.settle p >>= fun d => d.turnOn s) >>= fun d => .ok (d, .nothing) := by
  unfold takeFlag
  cases d.settle p with
  | error e => rfl
  | ok d =>
    show orMisuse (d.turnOn s) >>= _ = orMisuse (d.turnOn s) >>= _
    rfl

/-- A setting with its value attached is assigned at once. -/
theorem takeFlag_attached (d : Draft) (p : Pending) (k : Setting) (value : List UInt8) :
    takeFlag d p (some value) (.setting k) =
      orMisuse (d.settle p >>= fun d => d.assign k value) >>= fun d => .ok (d, .nothing) := by
  unfold takeFlag
  cases d.settle p with
  | error e => rfl
  | ok d => rfl

/-- A setting by itself waits for its value. -/
theorem takeFlag_separate (d : Draft) (p : Pending) (k : Setting) :
    takeFlag d p none (.setting k) = orMisuse (d.settle p) >>= fun d => .ok (d, .waiting k) := by
  unfold takeFlag
  cases d.settle p with
  | error e => rfl
  | ok d => rfl

/-- **Short names behind one dash** are taken from left to right. -/
theorem takeCluster_eq {bs : List UInt8} {ss : List Switch} (h : List.Forall₂ IsShortFor bs ss)
    (hne : bs ≠ []) (d : Draft) (p : Pending) :
    takeCluster d p bs =
      orMisuse (d.settle p >>= fun d => d.giveAll (ss.map .on)) >>= fun d => .ok (d, .nothing) := by
  induction h generalizing d p with
  | nil => exact absurd rfl hne
  | @cons b s bs ss hb hbs ih =>
    rw [takeCluster, Flag.ofShort?_of_isShortFor hb]
    show takeFlag d p none (.switch s) >>= _ = _
    rw [takeFlag_switch]
    cases d.settle p with
    | error e => rfl
    | ok d =>
      show orMisuse (d.turnOn s) >>= _ >>= _ = orMisuse (d.turnOn s >>= _) >>= _
      cases d.turnOn s with
      | error e => rfl
      | ok d =>
        cases hbs with
        | nil => rfl
        | cons hb' hbs' => exact ih (List.cons_ne_nil _ _) d .nothing

theorem longArgument_ne_endMark {name : String} {flag : Flag}
    (h : (name, flag) ∈ Flag.longNames) : longArgument name ≠ endMark := by
  intro heq
  exact Flag.encode_ne_nil h (List.cons.inj (List.cons.inj heq).2).2

/-- The mark is two dashes, and no value. -/
theorem IsBare.ne_endMark (h : IsBare arg) : arg ≠ endMark := by
  rintro rfl
  rcases h with h | h
  · cases h
  · exact h rfl

/-- **A long name by itself** is taken as its flag. -/
theorem takeArgument_longArgument {name : String} {flag : Flag}
    (h : (name, flag) ∈ Flag.longNames) :
    takeArgument d p (longArgument name) = takeFlag d p none flag := by
  rw [longArgument, takeArgument_long, splitLong_of_not_mem (Flag.equalsSign_not_mem h)]
  simp only [Flag.ofLong?_encode h]

/-- **A long name with a value attached** is split at the first equals sign, so a value may
have more of them. -/
theorem takeArgument_attached {name : String} {flag : Flag}
    (h : (name, flag) ∈ Flag.longNames) (value : List UInt8) :
    takeArgument d p (longArgument name ++ equalsSign :: value) =
      takeFlag d p (some value) flag := by
  rw [longArgument, List.cons_append, List.cons_append, takeArgument_long,
    splitLong_append (Flag.equalsSign_not_mem h)]
  simp only [Flag.ofLong?_encode h]

/-- **Short names** start with no dash. -/
theorem exists_cons_of_isShortFor {bs : List UInt8} {ss : List Switch}
    (h : List.Forall₂ IsShortFor bs ss) (hne : bs ≠ []) : ∃ b rest, b ≠ dash ∧ bs = b :: rest := by
  cases h with
  | nil => exact absurd rfl hne
  | cons hb _ => exact ⟨_, _, Flag.isShortFor_ne_dash hb, rfl⟩

/-- **Options written together** are given one after another, unless the value of a setting is an
argument of its own. -/
theorem takeArgument_of_written {gs : List Given} (h : Written gs args) :
    (∃ arg, args = [arg] ∧ arg ≠ endMark ∧ ∀ d p, takeArgument d p arg =
      orMisuse (d.settle p >>= fun d => d.giveAll gs) >>= fun d => .ok (d, .nothing)) ∨
    ∃ name k value, (name, .setting k) ∈ Flag.longNames ∧ IsBare value ∧
      gs = [.set k value] ∧ args = [longArgument name, value] := by
  cases h with
  | long hname =>
    refine .inl ⟨_, rfl, longArgument_ne_endMark hname, fun d p => ?_⟩
    rw [takeArgument_longArgument hname, takeFlag_switch]
    simp only [Draft.giveAll_singleton, Draft.give]
  | short hne hshort =>
    obtain ⟨b, rest, hdash, rfl⟩ := exists_cons_of_isShortFor hshort hne
    refine .inl ⟨_, rfl, fun heq => hdash (List.cons.inj (List.cons.inj heq).2).1, fun d p => ?_⟩
    rw [takeArgument_short hdash, takeCluster_eq hshort hne]
  | attached hname =>
    refine .inl ⟨_, rfl, fun heq => ?_, fun d p => ?_⟩
    · exact List.append_ne_nil_of_right_ne_nil _ (List.cons_ne_nil _ _)
        (List.cons.inj (List.cons.inj heq).2).2
    · rw [takeArgument_attached hname, takeFlag_attached]
      simp only [Draft.giveAll_singleton, Draft.give]
  | separate hname hvalue => exact .inr ⟨_, _, _, hname, hvalue, rfl, rfl⟩

/-- **Arguments that write options** are read as these options. -/
theorem takeArguments_of_writes {gs : List Given} (h : Writes gs args) (d : Draft) (p : Pending) :
    takeArguments d p args = orMisuse (d.settle p >>= fun d => d.giveAll gs) := by
  induction h generalizing d p with
  | nil => exact congrArg orMisuse (bind_pure (d.settle p)).symm
  | endMark => exact congrArg orMisuse (bind_pure (d.settle p)).symm
  | @cons gs hs args rest hwritten _ ih =>
    obtain ⟨arg, rfl, hmark, harg⟩ | ⟨name, k, value, hname, hvalue, rfl, rfl⟩ :=
      takeArgument_of_written hwritten
    · calc takeArguments d p ([arg] ++ rest)
          = orMisuse (d.settle p >>= fun d => d.giveAll gs) >>=
              fun d => takeArguments d .nothing rest := by
            rw [List.singleton_append, takeArguments_cons hmark, harg, bind_assoc]
            rfl
        _ = orMisuse (d.settle p >>= fun d => d.giveAll gs) >>=
              fun d => orMisuse (d.giveAll hs) :=
            congrArg _ (funext fun d => ih d .nothing)
        _ = orMisuse (d.settle p >>= fun d => d.giveAll (gs ++ hs)) := by
            simp only [← orMisuse_bind, bind_assoc, Draft.giveAll_append]
    · -- The value is looked at only with what comes after it.
      calc takeArguments d p ([longArgument name, value] ++ rest)
          = orMisuse (d.settle p) >>= fun d => takeArguments d (.holding k value) rest := by
            show takeArguments d p (longArgument name :: value :: rest) = _
            rw [takeArguments_cons (longArgument_ne_endMark hname),
              takeArgument_longArgument hname, takeFlag_separate, bind_assoc]
            refine congrArg _ (funext fun d => ?_)
            show takeArguments d (.waiting k) (value :: rest) = _
            rw [takeArguments_cons hvalue.ne_endMark, takeArgument_bare hvalue]
            rfl
        _ = orMisuse (d.settle p) >>= fun d => orMisuse (d.assign k value >>= fun d =>
              d.giveAll hs) := congrArg _ (funext fun d => ih d (.holding k value))
        _ = orMisuse (d.settle p >>= fun d => d.giveAll ([.set k value] ++ hs)) :=
            orMisuse_bind.symm

/-! ## 5. What is read was written

Each function of the reader is inverted: when it succeeds, on what, and what it then waits for.
-/

variable {next : Draft × Pending}

/-- **A flag that can be taken**: a switch without a value, or a setting with or without one.
The setting before it, if there is one, has its value by then. -/
theorem takeFlag_eq_ok {value : Option (List UInt8)} {flag : Flag}
    (h : takeFlag d p value flag = .ok next) :
    (∀ k, p ≠ .waiting k) ∧
      ((∃ s, flag = .switch s ∧ value = none ∧ next.2 = .nothing) ∨
        ∃ k, flag = .setting k ∧
          (value = none ∧ next.2 = .waiting k ∨ (∃ v, value = some v) ∧ next.2 = .nothing)) := by
  have hsettled : ∀ k, p ≠ .waiting k := by
    rintro k rfl
    cases flag <;> cases value <;> cases h
  refine ⟨hsettled, ?_⟩
  cases flag with
  | switch s =>
    cases value with
    | some v => cases h
    | none =>
      rw [takeFlag_switch] at h
      obtain ⟨e, -, hnext⟩ := bind_eq_ok_iff.mp h
      cases hnext
      exact .inl ⟨s, rfl, rfl, rfl⟩
  | setting k =>
    cases value with
    | some v =>
      rw [takeFlag_attached] at h
      obtain ⟨e, -, hnext⟩ := bind_eq_ok_iff.mp h
      cases hnext
      exact .inr ⟨k, rfl, .inr ⟨⟨v, rfl⟩, rfl⟩⟩
    | none =>
      rw [takeFlag_separate] at h
      obtain ⟨e, -, hnext⟩ := bind_eq_ok_iff.mp h
      cases hnext
      exact .inr ⟨k, rfl, .inl ⟨rfl, rfl⟩⟩
  | help =>
    cases value with
    | some v => cases h
    | none =>
      obtain ⟨e, -, hnext⟩ := bind_eq_ok_iff.mp h
      cases hnext
  | version =>
    cases value with
    | some v => cases h
    | none =>
      obtain ⟨e, -, hnext⟩ := bind_eq_ok_iff.mp h
      cases hnext

/-- **A cluster that can be taken** is of short names of switches. -/
theorem takeCluster_eq_ok {bs : List UInt8} (h : takeCluster d p bs = .ok next) (hne : bs ≠ []) :
    (∀ k, p ≠ .waiting k) ∧ next.2 = .nothing ∧ ∃ ss, List.Forall₂ IsShortFor bs ss := by
  induction bs generalizing d p with
  | nil => exact absurd rfl hne
  | cons b bs ih =>
    rw [takeCluster] at h
    cases hshort : Flag.ofShort? b with
    | none =>
      rw [hshort] at h
      cases h
    | some flag =>
      rw [hshort] at h
      obtain ⟨first, hflag, hrest⟩ := bind_eq_ok_iff.mp h
      obtain ⟨hsettled, ⟨s, rfl, -, hnext⟩ | ⟨k, rfl, -⟩⟩ := takeFlag_eq_ok hflag
      · have hb := Flag.isShortFor_of_ofShort? hshort
        by_cases hlast : bs = []
        · subst hlast
          cases hrest
          exact ⟨hsettled, hnext, [s], .cons hb .nil⟩
        · obtain ⟨-, hnothing, ss, hss⟩ := ih hrest hlast
          exact ⟨hsettled, hnothing, s :: ss, .cons hb hss⟩
      · exact absurd hshort (Flag.ofShort?_ne_setting b k)

/-- **An argument that can be taken** is the value that is waited for; or, if none is, it writes
options by itself or is the name of a setting whose value comes next. -/
theorem takeArgument_eq_ok (h : takeArgument d p arg = .ok next) :
    (∃ k, p = .waiting k ∧ IsBare arg ∧ next.2 = .holding k arg) ∨
      (∀ k, p ≠ .waiting k) ∧
        ((∃ gs, Written gs [arg] ∧ next.2 = .nothing) ∨
          ∃ name k, (name, .setting k) ∈ Flag.longNames ∧ arg = longArgument name ∧
            next.2 = .waiting k) := by
  rcases isBare_or arg with hbare | ⟨bytes, rfl⟩ | ⟨b, bs, hb, rfl⟩
  · rw [takeArgument_bare hbare] at h
    cases p with
    | waiting k =>
      cases h
      exact .inl ⟨k, rfl, hbare, rfl⟩
    | nothing => cases h
    | holding k value => cases h
  · rw [takeArgument_long] at h
    cases hlong : Flag.ofLong? (splitLong bytes).1 with
    | none =>
      rw [hlong] at h
      cases h
    | some flag =>
      simp only [hlong] at h
      obtain ⟨name, hname, hencode⟩ := Flag.exists_of_ofLong? hlong
      have hsplit := eq_of_splitLong bytes
      obtain ⟨hsettled, hflag⟩ := takeFlag_eq_ok h
      refine .inr ⟨hsettled, ?_⟩
      obtain ⟨s, rfl, hvalue, hnext⟩ | ⟨k, rfl, ⟨hvalue, hnext⟩ | ⟨⟨v, hvalue⟩, hnext⟩⟩ := hflag
      · rw [hvalue, ← hencode] at hsplit
        exact .inl ⟨[.on s], hsplit ▸ .long hname, hnext⟩
      · rw [hvalue, ← hencode] at hsplit
        exact .inr ⟨name, k, hname, hsplit ▸ rfl, hnext⟩
      · rw [hvalue, ← hencode] at hsplit
        exact .inl ⟨[.set k v], hsplit ▸ .attached hname, hnext⟩
  · rw [takeArgument_short hb] at h
    obtain ⟨hsettled, hnext, ss, hss⟩ := takeCluster_eq_ok h (List.cons_ne_nil b bs)
    exact .inr ⟨hsettled, .inl ⟨ss.map .on, .short (List.cons_ne_nil b bs) hss, hnext⟩⟩

/-- **All arguments that can be taken** write options, after the value that is waited for if one
is. -/
theorem exists_writes (h : takeArguments d p args = .ok d') :
    (∃ k value rest gs, p = .waiting k ∧ args = value :: rest ∧ IsBare value ∧ Writes gs rest) ∨
      (∀ k, p ≠ .waiting k) ∧ ∃ gs, Writes gs args := by
  have hsettled {d : Draft} {p : Pending} (h : orMisuse (d.settle p) = .ok d') :
      ∀ k, p ≠ .waiting k := by
    rintro k rfl
    cases h
  induction args generalizing d p with
  | nil => exact .inr ⟨hsettled h, [], .nil⟩
  | cons arg args ih =>
    by_cases hmark : arg = endMark
    · subst hmark
      rw [takeArguments, if_pos rfl] at h
      cases args with
      | nil => exact .inr ⟨hsettled h, [], .endMark⟩
      | cons arg args => cases h
    · rw [takeArguments_cons hmark] at h
      obtain ⟨next, harg, hrest⟩ := bind_eq_ok_iff.mp h
      obtain ⟨k, rfl, hbare, hnext⟩ | ⟨hfree, ⟨gs, hgs, hnext⟩ | ⟨name, k, hname, rfl, hnext⟩⟩ :=
        takeArgument_eq_ok harg
      · obtain ⟨k', -, -, -, hwait, -⟩ | ⟨-, gs, hgs⟩ := ih hrest
        · cases hnext.symm.trans hwait
        · exact .inl ⟨k, arg, args, gs, rfl, rfl, hbare, hgs⟩
      · obtain ⟨k', -, -, -, hwait, -⟩ | ⟨-, hs, hhs⟩ := ih hrest
        · cases hnext.symm.trans hwait
        · exact .inr ⟨hfree, gs ++ hs, .cons hgs hhs⟩
      · obtain ⟨k', value, rest, hs, -, rfl, hbare, hhs⟩ | ⟨hwait, -⟩ := ih hrest
        · exact .inr ⟨hfree, [.set k value] ++ hs, .cons (.separate hname hbare) hhs⟩
        · exact absurd hnext (hwait k)

end Arguments

end LintRun

import LintRun.CommandLine.Options
import LintRun.Proofs.Registry.Selection
import Mathlib.Data.List.Perm.Basic

/-!
# What given options come to

Apart from how they are written, options are switches and settings with values, given one after
another (`Draft.giveAll`).  What has been given so far is told by looking at each kind of option
by itself (`Draft.Holds`): the switches and the names in the order in which they were given, and
at most one value of each other setting.  Giving options comes to a draft exactly if the draft
holds them (`giveAll_eq_ok_iff`), so that their order matters only for the order of switches and
names (`Draft.Holds.perm`).

Giving options is a fold that stops at an option which cannot be taken: a switch that is on, a
setting that has its value, a value that is not well written.  `Draft.Takes` says for each kind
of option what is changed, and `Draft.Holds` is the invariant of the fold.  It has one field
for each part of the draft and no field mentions another, which is why options of different
kinds may change places.

The converse direction needs that an option which is held together with others could be taken
when it came (`Holds.exists_takes`): among the values of a setting there is at most one, so
there was none before it.
-/

namespace LintRun

/-! ## 1. Options one after another

An option is a switch or a setting with its value, once the writing is stripped off. -/

/-- An option as it is given. -/
inductive Given
  | on (s : Switch)
  | set (s : Setting) (value : List UInt8)
  deriving DecidableEq

namespace Given

/-- The switch that is turned on. -/
def switch? : Given → Option Switch
  | on s => some s
  | set _ _ => none

/-- The value that a setting is given. -/
def value? (s : Setting) : Given → Option (List UInt8)
  | on _ => none
  | set s' value => if s' = s then some value else none

end Given

/-- The switches that are turned on, in order. -/
def switchesOf (gs : List Given) : List Switch := gs.filterMap Given.switch?

/-- The values that a setting is given, in order. -/
def valuesOf (s : Setting) (gs : List Given) : List (List UInt8) := gs.filterMap (Given.value? s)

section Of

variable {s : Switch} {k l : Setting} {value : List UInt8} {gs : List Given}

@[simp] theorem switchesOf_nil : switchesOf [] = [] := rfl

@[simp] theorem switchesOf_on : switchesOf (.on s :: gs) = s :: switchesOf gs := rfl

@[simp] theorem switchesOf_set : switchesOf (.set k value :: gs) = switchesOf gs := rfl

@[simp] theorem valuesOf_nil : valuesOf k [] = [] := rfl

@[simp] theorem valuesOf_on : valuesOf k (.on s :: gs) = valuesOf k gs := rfl

@[simp] theorem valuesOf_set_self :
    valuesOf k (.set k value :: gs) = value :: valuesOf k gs := by
  simp [valuesOf, Given.value?]

@[simp] theorem valuesOf_set_of_ne (h : l ≠ k) :
    valuesOf k (.set l value :: gs) = valuesOf k gs := by
  simp [valuesOf, Given.value?, h]

end Of

theorem switchesOf_append (gs hs : List Given) :
    switchesOf (gs ++ hs) = switchesOf gs ++ switchesOf hs := List.filterMap_append

theorem valuesOf_append (s : Setting) (gs hs : List Given) :
    valuesOf s (gs ++ hs) = valuesOf s gs ++ valuesOf s hs := List.filterMap_append

/-- Takes an option. -/
def Draft.give (d : Draft) : Given → Except Misuse Draft
  | .on s => d.turnOn s
  | .set s value => d.assign s value

/-- Takes options one after another. -/
def Draft.giveAll (d : Draft) : List Given → Except Misuse Draft
  | [] => .ok d
  | g :: gs => do (← d.give g).giveAll gs

@[simp] theorem Draft.giveAll_singleton (d : Draft) (g : Given) : d.giveAll [g] = d.give g :=
  bind_pure (d.give g)

theorem Draft.giveAll_append (d : Draft) (gs hs : List Given) :
    d.giveAll (gs ++ hs) = d.giveAll gs >>= fun d => d.giveAll hs := by
  induction gs generalizing d with
  | nil => rfl
  | cons g gs ih =>
    rw [List.cons_append, giveAll, giveAll]
    cases d.give g with
    | error e => rfl
    | ok d => exact ih d

/-- **What taking an option changes**, and when it can be taken. -/
inductive Draft.Takes (d : Draft) : Given → Draft → Prop
  | on {s : Switch} (h : s ∉ d.switches) : Takes d (.on s) { d with switches := d.switches ++ [s] }
  | only {value : List UInt8} {name : String} (h : Utf8.decode? value = some name) :
      Takes d (.set .only value) { d with only := d.only ++ [name] }
  | root {value : List UInt8} {p : Path} (hnone : d.root = none) (h : pathValue value = .ok p) :
      Takes d (.set .root value) { d with root := some p }
  | config {value : List UInt8} {p : Path} (hnone : d.config = none)
      (h : pathValue value = .ok p) : Takes d (.set .config value) { d with config := some p }
  | format {value : List UInt8} {f : Format} (hnone : d.format = none)
      (h : formatValue value = .ok f) : Takes d (.set .format value) { d with format := some f }

theorem map_eq_ok_iff {ε α β : Type} {f : α → β} {x : Except ε α} {b : β} :
    x.map f = .ok b ↔ ∃ a, x = .ok a ∧ f a = b := by
  cases x <;> simp [Except.map]

/-- A switch can be turned on once. -/
theorem Draft.turnOn_eq_ok_iff {d d' : Draft} {s : Switch} :
    d.turnOn s = .ok d' ↔ s ∉ d.switches ∧ { d with switches := d.switches ++ [s] } = d' := by
  rw [turnOn, List.contains_eq_mem]
  by_cases hs : s ∈ d.switches <;> simp [hs]

/-- A setting can be assigned if it has no value, or may have several, and if the value is well
written. -/
theorem Draft.assign_eq_ok_iff {d d' : Draft} {s : Setting} {value : List UInt8} :
    d.assign s value = .ok d' ↔ d.isTaken s = false ∧
      match s with
      | .only => ∃ name, Utf8.decode? value = some name ∧
          { d with only := d.only ++ [name] } = d'
      | .root => ∃ p, pathValue value = .ok p ∧ { d with root := some p } = d'
      | .config => ∃ p, pathValue value = .ok p ∧ { d with config := some p } = d'
      | .format => ∃ f, formatValue value = .ok f ∧ { d with format := some f } = d' := by
  unfold assign
  cases htaken : d.isTaken s with
  | true => simp
  | false =>
    cases s with
    | only => cases Utf8.decode? value <;> simp
    | root => simp [map_eq_ok_iff]
    | config => simp [map_eq_ok_iff]
    | format => simp [map_eq_ok_iff]

/-- **Taking an option** succeeds exactly if the option can be taken. -/
theorem Draft.give_eq_ok_iff {d d' : Draft} {g : Given} : d.give g = .ok d' ↔ d.Takes g d' := by
  constructor
  · intro h
    cases g with
    | on s =>
      obtain ⟨hs, rfl⟩ := turnOn_eq_ok_iff.mp h
      exact .on hs
    | set s value =>
      obtain ⟨hfree, htaken⟩ := assign_eq_ok_iff.mp h
      cases s with
      | only =>
        obtain ⟨name, hname, rfl⟩ := htaken
        exact .only hname
      | root =>
        obtain ⟨p, hp, rfl⟩ := htaken
        exact .root (Option.isSome_eq_false_iff.mp hfree |> Option.isNone_iff_eq_none.mp) hp
      | config =>
        obtain ⟨p, hp, rfl⟩ := htaken
        exact .config (Option.isSome_eq_false_iff.mp hfree |> Option.isNone_iff_eq_none.mp) hp
      | format =>
        obtain ⟨f, hf, rfl⟩ := htaken
        exact .format (Option.isSome_eq_false_iff.mp hfree |> Option.isNone_iff_eq_none.mp) hf
  · intro h
    cases h with
    | on hs => exact turnOn_eq_ok_iff.mpr ⟨hs, rfl⟩
    | only hname => exact assign_eq_ok_iff.mpr ⟨rfl, _, hname, rfl⟩
    | root hnone hp => exact assign_eq_ok_iff.mpr ⟨by rw [isTaken, hnone]; rfl, _, hp, rfl⟩
    | config hnone hp => exact assign_eq_ok_iff.mpr ⟨by rw [isTaken, hnone]; rfl, _, hp, rfl⟩
    | format hnone hf => exact assign_eq_ok_iff.mpr ⟨by rw [isTaken, hnone]; rfl, _, hf, rfl⟩

/-! ## 2. What has been given

Values of settings are compared as they are read; one that cannot be read is held by no draft.
-/

/-- **What a draft holds**: the switches, each once; the names, well written; and of each other
setting the value, if there is one, and no second. -/
structure Draft.Holds (d : Draft) (gs : List Given) : Prop where
  switches : switchesOf gs = d.switches
  nodup : d.switches.Nodup
  only : (valuesOf .only gs).map Utf8.decode? = d.only.map some
  root : (valuesOf .root gs).map pathValue = d.root.toList.map .ok
  config : (valuesOf .config gs).map pathValue = d.config.toList.map .ok
  format : (valuesOf .format gs).map formatValue = d.format.toList.map .ok

section Single

variable {ε α : Type} {x : Except ε α} {o o' : Option α} {xs ys : List (Except ε α)}

theorem toList_map_ok_injective (h : o.toList.map (Except.ok (ε := ε)) = o'.toList.map .ok) :
    o = o' := by
  cases o <;> cases o' <;> simp_all

/-- **Of at most one value** none comes before or after the one. -/
theorem eq_of_append_eq_toList (h : xs ++ x :: ys = o.toList.map .ok) :
    xs = [] ∧ ∃ a, x = .ok a := by
  cases o with
  | none => simp at h
  | some a =>
    cases xs with
    | nil => exact ⟨rfl, a, (List.cons.inj h).1⟩
    | cons y xs => simp at h

end Single

namespace Draft

variable {d d' e : Draft} {g : Given} {gs hs : List Given}

theorem holds_nil : Holds {} [] := ⟨rfl, List.nodup_nil, rfl, rfl, rfl, rfl⟩

/-- **What is held tells the draft**: there is one for each row of options at most. -/
theorem Holds.unique (h : d.Holds gs) (h' : d'.Holds gs) : d = d' := by
  obtain ⟨switches, only, root, config, format⟩ := d
  obtain ⟨switches', only', root', config', format'⟩ := d'
  have hswitches : switches = switches' := h.switches.symm.trans h'.switches
  have honly : only = only' :=
    List.map_injective_iff.mpr (fun _ _ => Option.some.inj) (h.only.symm.trans h'.only)
  have hroot : root = root' := toList_map_ok_injective (h.root.symm.trans h'.root)
  have hconfig : config = config' := toList_map_ok_injective (h.config.symm.trans h'.config)
  have hformat : format = format' := toList_map_ok_injective (h.format.symm.trans h'.format)
  rw [hswitches, honly, hroot, hconfig, hformat]

/-- **One more option** is held as well. -/
theorem Holds.takes (h : d.Holds gs) (ht : d.Takes g d') : d'.Holds (gs ++ [g]) := by
  obtain ⟨hswitches, hnodup, honly, hroot, hconfig, hformat⟩ := h
  cases ht with
  | @on s hs =>
    have hmore : (d.switches ++ [s]).Nodup := List.concat_eq_append ▸ hnodup.concat hs
    constructor <;> simp [switchesOf_append, valuesOf_append, *]
  | only hname => constructor <;> simp [switchesOf_append, valuesOf_append, *]
  | root hnone hp => constructor <;> simp [switchesOf_append, valuesOf_append, *]
  | config hnone hp => constructor <;> simp [switchesOf_append, valuesOf_append, *]
  | format hnone hf => constructor <;> simp [switchesOf_append, valuesOf_append, *]

/-- **An option among those held** can be taken after those before it. -/
theorem Holds.exists_takes (h : d.Holds gs) (h' : d'.Holds (gs ++ g :: hs)) :
    ∃ e, d.Takes g e := by
  have hsingle {α : Type} {o o' : Option α} {f : List UInt8 → Except Misuse α} {s : Setting}
      {value : List UInt8} (ho : (valuesOf s gs).map f = o.toList.map .ok)
      (ho' : (valuesOf s (gs ++ .set s value :: hs)).map f = o'.toList.map .ok) :
      o = none ∧ ∃ a, f value = .ok a := by
    rw [valuesOf_append, valuesOf_set_self, List.map_append, List.map_cons, ho] at ho'
    obtain ⟨hnone, ha⟩ := eq_of_append_eq_toList ho'
    exact ⟨by simpa using hnone, ha⟩
  cases g with
  | on s =>
    refine ⟨_, .on fun hs => ?_⟩
    have hnodup := h'.switches ▸ h'.nodup
    rw [switchesOf_append, switchesOf_on, h.switches] at hnodup
    exact (List.nodup_append.mp hnodup).2.2 s hs s List.mem_cons_self rfl
  | set s value =>
    cases s with
    | only =>
      have hvalue : Utf8.decode? value ∈ d'.only.map some := by
        rw [← h'.only, valuesOf_append, valuesOf_set_self]
        simp
      obtain ⟨name, -, hname⟩ := List.mem_map.mp hvalue
      exact ⟨_, .only hname.symm⟩
    | root =>
      obtain ⟨hnone, p, hp⟩ := hsingle h.root h'.root
      exact ⟨_, .root hnone hp⟩
    | config =>
      obtain ⟨hnone, p, hp⟩ := hsingle h.config h'.config
      exact ⟨_, .config hnone hp⟩
    | format =>
      obtain ⟨hnone, f, hf⟩ := hsingle h.format h'.format
      exact ⟨_, .format hnone hf⟩

/-- **Options one after another** come to the draft that holds them, if there is one. -/
theorem giveAll_eq_ok_iff_append (h : d.Holds gs) :
    d.giveAll hs = .ok d' ↔ d'.Holds (gs ++ hs) := by
  induction hs generalizing d gs with
  | nil =>
    rw [List.append_nil]
    constructor
    · rintro ⟨⟩
      exact h
    · intro h'
      rw [h.unique h']
      rfl
  | cons g hs ih =>
    rw [giveAll, bind_eq_ok_iff]
    constructor
    · rintro ⟨e, hgive, hrest⟩
      rw [List.append_cons]
      exact (ih (h.takes (give_eq_ok_iff.mp hgive))).mp hrest
    · intro h'
      obtain ⟨e, hg⟩ := h.exists_takes h'
      rw [List.append_cons] at h'
      exact ⟨e, give_eq_ok_iff.mpr hg, (ih (h.takes hg)).mpr h'⟩

/-- **Options given from the start** come to the draft that holds them. -/
theorem giveAll_eq_ok_iff : giveAll {} gs = .ok d ↔ d.Holds gs := giveAll_eq_ok_iff_append holds_nil

/-! ## 3. The order of options

The three settings with one value are the same for every order. -/

theorem exists_eq_map_of_perm {α β : Type} {f : α → β} {as : List α} {bs : List β}
    (h : bs.Perm (as.map f)) : ∃ as' : List α, bs = as'.map f ∧ as'.Perm as := by
  have hcomp : Relation.Comp (fun bs as => bs = List.map f as) List.Perm bs as := by
    rw [List.eq_map_comp_perm]
    exact h
  exact hcomp

/-- **The same options in another order** are held by a draft that differs in the order of
switches and names at most. -/
theorem Holds.perm (h : d.Holds gs) (hperm : gs.Perm hs) :
    ∃ switches only, ({ d with switches, only } : Draft).Holds hs ∧
      switches.Perm d.switches ∧ only.Perm d.only := by
  have hsingle {α : Type} {o : Option α} {f : List UInt8 → Except Misuse α} {s : Setting}
      (ho : (valuesOf s gs).map f = o.toList.map .ok) :
      (valuesOf s hs).map f = o.toList.map .ok := by
    have hvalues : ((valuesOf s hs).map f).Perm (o.toList.map .ok) :=
      ho ▸ ((hperm.symm.filterMap _).map f)
    cases o with
    | none => exact List.perm_nil.mp hvalues
    | some a => exact List.perm_singleton.mp hvalues
  have hswitches : (switchesOf hs).Perm d.switches := h.switches ▸ hperm.symm.filterMap _
  have honly : ((valuesOf .only hs).map Utf8.decode?).Perm (d.only.map some) :=
    h.only ▸ (hperm.symm.filterMap _).map Utf8.decode?
  obtain ⟨only, hnames, honly⟩ := exists_eq_map_of_perm honly
  exact ⟨_, only, ⟨rfl, hswitches.nodup_iff.mpr h.nodup, hnames, hsingle h.root, hsingle h.config,
    hsingle h.format⟩, hswitches, honly⟩

end Draft

end LintRun

import LintRun.Proofs.Ascending
import LintRun.Proofs.Registry.Selection
import LintRun.Proofs.Toml.Value
import LintRun.Registry.Schema

/-!
# What a registry file is decoded to

Each type of the schema has a relation that says what a value of it says (`Schema.IsText`,
`Schema.IsList`, `Tool.IsWrittenIn` and the like), in terms of what stands at which key, with
defaults where nothing stands, and one lemma that its decoder reads by this relation
(`Schema.Reads`).  `RegistryFile.ofEntries_eq_ok_iff` is the last of them.

The decoder of a structure does two things with a table.  First it goes through the entries in
document order and lets each field check what stands at it, so that the first error of the
document is the one that is reported; then it reads the fields in declared order.  A value is
thus decoded twice, and the relation must come out of both.  The argument is the same for every
structure.

* Going through the entries passes exactly if every key is declared and every field accepts
  what stands at it (`checkEntries_iff`).  This is where it is used that no key stands twice.
* Reading a field asks for what stands at its key (`Reads.required`, `Reads.optional` and
  `Reads.withDefault`).
* What says something at a field passes the field's check (`Reads.check`).  So once the fields
  are read, the check of the entries comes down to the keys being declared, and the two passes
  together are the relation.

A structure may also be written as an array, with its fields by position, and a mode as a table
with one key; these are forms that the decoder takes and no file is written in.  `Schema.Reads`
has the property of values as a parameter, so that each lemma says for which values it holds:
`IsStructure` and `IsWrittenOut` collect what is left out, and `Toml.Value.IsPlain` excludes
keys that stand twice and date-times, which count as tables.

The relations ask for nothing but the value of a key, so a document with its keys in another
order says the same (`Schema.Stable`).  Which error is reported does depend on the order;
nothing is said about errors here but that there is one.
-/

namespace LintRun

open Toml

namespace Schema

/-! ## 1. What values say

Nothing here mentions a decoder.  `Holds`, `HoldsOr` and `MayHold` are the three kinds of
fields: one that must be there, one with a default, and one that may be unset. -/

section Relations

variable {α : Type}

/-- A text. -/
def IsText (v : Value) (s : String) : Prop := v = .string s

/-- A truth value. -/
def IsFlag (v : Value) (b : Bool) : Prop := v = .boolean b

/-- An exit code: a number that fits a signed 32-bit word. -/
def IsCode (v : Value) (n : Int) : Prop := v = .integer n ∧ -2147483648 ≤ n ∧ n ≤ 2147483647

/-- The name of a mode. -/
def IsMode (v : Value) (m : Mode) : Prop := v = .string m.name

/-- A list, item by item. -/
inductive IsList (R : Value → α → Prop) : Value → List α → Prop
  | mk {items : List Value} {as : List α} (h : List.Forall₂ R items as) :
      IsList R (.array items) as

/-- A table of texts. -/
inductive IsBindings : Value → Bindings → Prop
  | mk {es : Entries} {b : Bindings} (texts : ∀ e ∈ es, ∃ s, e.2 = .string s)
      (h : ∀ name s, (name, s) ∈ b ↔ (name, .string s) ∈ es) : IsBindings (.table es) b

/-- A table, by what its entries say. -/
inductive IsTable (R : Entries → α → Prop) : Value → α → Prop
  | mk {es : Entries} {a : α} (h : R es a) : IsTable R (.table es) a

/-- What stands at a key. -/
def Holds (R : Value → α → Prop) (es : Entries) (key : String) (a : α) : Prop :=
  ∃ v, es.lookup key = some v ∧ R v a

/-- What stands at a key, or the default where nothing does. -/
def HoldsOr (R : Value → α → Prop) (default : α) (es : Entries) (key : String) (a : α) : Prop :=
  Holds R es key a ∨ es.lookup key = none ∧ a = default

/-- What stands at a key that may be missing. -/
def MayHold (R : Value → α → Prop) (es : Entries) (key : String) (o : Option α) : Prop :=
  HoldsOr (fun v o => ∃ a, o = some a ∧ R v a) none es key o

end Relations

end Schema

open Schema

/-- What the entries of a tool say. -/
structure Tool.IsWrittenIn (es : Entries) (t : Tool) : Prop where
  declared : ∀ k ∈ es.keys, k ∈ ["program", "args", "fix_args", "check_args", "env", "cwd",
    "capture_stderr", "needs_format_status"]
  program : Holds IsText es "program" t.program
  arguments : HoldsOr (IsList IsText) [] es "args" t.arguments
  fixArguments : HoldsOr (IsList IsText) [] es "fix_args" t.fixArguments
  checkArguments : HoldsOr (IsList IsText) [] es "check_args" t.checkArguments
  environment : HoldsOr IsBindings .empty es "env" t.environment
  directory : MayHold IsText es "cwd" t.directory
  capturesErrors : HoldsOr IsFlag false es "capture_stderr" t.capturesErrors
  needsFormatCode : MayHold IsCode es "needs_format_status" t.needsFormatCode

/-- What the entries of a category say. -/
structure CategoryEntry.IsWrittenIn (es : Entries) (c : CategoryEntry) : Prop where
  declared : ∀ k ∈ es.keys, k ∈ ["key", "aliases", "description", "roots", "ignore_roots",
    "extensions", "noise", "mode", "tool", "fixer"]
  key : Holds IsText es "key" c.key
  aliases : HoldsOr (IsList IsText) [] es "aliases" c.aliases
  description : HoldsOr IsText "" es "description" c.description
  roots : Holds (IsList IsText) es "roots" c.roots
  ignoreRoots : HoldsOr (IsList IsText) [] es "ignore_roots" c.ignoreRoots
  extensions : Holds (IsList IsText) es "extensions" c.extensions
  noise : HoldsOr (IsList IsText) [] es "noise" c.noise
  mode : HoldsOr IsMode .batch es "mode" c.mode
  tool : Holds (IsTable Tool.IsWrittenIn) es "tool" c.tool
  fixer : MayHold (IsTable Tool.IsWrittenIn) es "fixer" c.fixer

/-- What the entries of the command that lists changed files say. -/
structure ChangeCommand.IsWrittenIn (es : Entries) (command : ChangeCommand) : Prop where
  declared : ∀ k ∈ es.keys, k ∈ ["program", "args"]
  program : Holds IsText es "program" command.program
  arguments : HoldsOr (IsList IsText) [] es "args" command.arguments

/-- **What a document says.**  Without a command for changed files it is git that lists the
staged files; a command without arguments has none. -/
structure RegistryFile.IsWrittenIn (es : Entries) (f : RegistryFile) : Prop where
  declared : ∀ k ∈ es.keys, k ∈ ["blacklist", "vcs", "category"]
  blacklist : HoldsOr (IsList IsText) [] es "blacklist" f.blacklist
  vcs : HoldsOr (IsTable ChangeCommand.IsWrittenIn)
    { program := "git", arguments := ["diff", "--name-only", "--cached"] } es "vcs" f.vcs
  categories :
    HoldsOr (IsList (IsTable CategoryEntry.IsWrittenIn)) [] es "category" f.categories

namespace Schema

/-! ## 2. Decoders of simple values

Decoders of simple values read by their relations whatever the value is, apart from modes and
tables of texts, which have a second form or need their keys apart. -/

section Simple

variable {α β : Type}

/-- **A decoder reads by a relation**, as far as values have a property. -/
def Reads (P : Value → Prop) (decode : Decoder α) (R : Value → α → Prop) : Prop :=
  ∀ v, P v → ∀ a, decode v = .ok a ↔ R v a

/-- Not written as an array. -/
def NotArray (v : Value) : Prop := ∀ items, v ≠ .array items

/-- Not written as a table. -/
def NotTable (v : Value) : Prop := ∀ es, v ≠ .table es

theorem reads_string : Reads (fun _ => True) string IsText := by
  intro v _ s
  cases v <;> simp [string, IsText]

theorem reads_boolean : Reads (fun _ => True) boolean IsFlag := by
  intro v _ b
  cases v <;> simp [boolean, IsFlag]

/-- A number that does not fit the word is an error, and so is a text that could be read as a
number. -/
theorem reads_code : Reads (fun _ => True) code IsCode := by
  intro v _ n
  cases v with
  | integer m =>
    simp only [code, IsCode, Value.integer.injEq]
    split
    · rename_i hfits
      simp only [fitsCode, Bool.and_eq_true, decide_eq_true_eq] at hfits
      rw [Except.ok.injEq]
      exact ⟨fun h => ⟨h, h ▸ hfits⟩, And.left⟩
    · rename_i hfits
      simp only [fitsCode, Bool.and_eq_true, decide_eq_true_eq] at hfits
      refine iff_of_false nofun ?_
      rintro ⟨rfl, hn⟩
      exact hfits hn
  | _ => simp [code, IsCode]

/-- Decoding a list stops at the first item that is not decoded; so it succeeds exactly if each
item is, and gives the items in order. -/
theorem mapM_eq_ok_iff {f : α → Except SchemaError β} {R : α → β → Prop} {xs : List α}
    {ys : List β} (h : ∀ x ∈ xs, ∀ y, f x = .ok y ↔ R x y) :
    xs.mapM f = .ok ys ↔ List.Forall₂ R xs ys := by
  induction xs generalizing ys with
  | nil =>
    rw [List.mapM_nil, List.forall₂_nil_left_iff]
    exact ⟨fun h => (Except.ok.inj h).symm, fun h => h ▸ rfl⟩
  | cons x xs ih =>
    obtain ⟨hx, hxs⟩ := List.forall_mem_cons.mp h
    rw [List.mapM_cons]
    simp only [bind_eq_ok_iff, ih hxs, hx, pure, Except.pure, Except.ok.injEq]
    constructor
    · rintro ⟨y, hy, ys, hys, rfl⟩
      exact .cons hy hys
    · intro h
      cases h with
      | cons hy hys => exact ⟨_, hy, _, hys, rfl⟩

/-- **A list is read item by item**, if its items have the property that the decoder of items
needs. -/
theorem reads_list {P : Value → Prop} {item : Decoder α} {R : Value → α → Prop}
    (h : Reads P item R) :
    Reads (fun v => ∀ items, v = .array items → ∀ x ∈ items, P x) (list item) (IsList R) := by
  intro v hv as
  cases v with
  | array items =>
    rw [list, mapM_eq_ok_iff fun x hx => h x (hv items rfl x hx)]
    exact ⟨.mk, fun ⟨h⟩ => h⟩
  | _ => exact iff_of_false nofun nofun

theorem reads_list_string : Reads (fun _ => True) (list string) (IsList IsText) :=
  fun v _ => reads_list reads_string v fun _ _ _ _ => trivial

/-- A text at a name, as an entry. -/
def textEntry (binding : String × String) : String × Value := (binding.1, .string binding.2)

theorem textEntry_injective : Function.Injective textEntry := by
  intro binding binding' h
  obtain ⟨hname, htext⟩ := Prod.mk.inj h
  exact Prod.ext hname (Value.string.inj htext)

/-- A table whose values are texts is one of texts. -/
theorem exists_map_textEntry {es : Entries} (h : ∀ e ∈ es, ∃ s, e.2 = .string s) :
    ∃ values : List (String × String), es = values.map textEntry := by
  induction es with
  | nil => exact ⟨[], rfl⟩
  | cons e es ih =>
    obtain ⟨⟨s, hs⟩, hes⟩ := List.forall_mem_cons.mp h
    obtain ⟨values, rfl⟩ := ih hes
    exact ⟨(e.1, s) :: values, by rw [List.map_cons, textEntry, ← hs]⟩

/-- A table is decoded entry by entry to the texts that stand in it. -/
theorem mapM_string_eq_ok_iff {es : Entries} {values : List (String × String)} :
    es.mapM (fun (name, v) => do return (name, ← string v)) = .ok values ↔
      es = values.map textEntry := by
  rw [mapM_eq_ok_iff (R := fun e value => e = textEntry value)]
  · rw [← List.forall₂_map_right_iff, List.forall₂_eq_eq_eq]
  · rintro ⟨name, v⟩ - ⟨name', s⟩
    simp only [bind_eq_ok_iff, reads_string v trivial, IsText, pure, Except.pure,
      Except.ok.injEq, Prod.mk.injEq, textEntry]
    constructor
    · rintro ⟨s', rfl, rfl, rfl⟩
      exact ⟨rfl, rfl⟩
    · rintro ⟨rfl, rfl⟩
      exact ⟨s, rfl, rfl, rfl⟩

/-- **No binding is lost** when bindings are put in the order of their names, as no name stands
twice. -/
theorem mem_ofList_iff {es : Entries} (hkeys : es.keys.Nodup) {values : List (String × String)}
    (hes : es = values.map textEntry) (binding : String × String) :
    binding ∈ (Ascending.ofList values : Bindings) ↔ textEntry binding ∈ es := by
  have hvalues : (values.map Prod.fst).Nodup := by
    rw [hes, Entries.keys, List.map_map] at hkeys
    exact hkeys
  rw [Ascending.mem_ofList fun a b ha hb => List.inj_on_of_nodup_map hvalues ha hb, hes,
    List.mem_map_of_injective textEntry_injective]

/-- **A table of texts** is what its entries are as texts. -/
theorem isBindings_iff {es : Entries} (hkeys : es.keys.Nodup) {b : Bindings} :
    IsBindings (.table es) b ↔
      ∃ values, es = values.map textEntry ∧ Ascending.ofList values = b := by
  constructor
  · rintro ⟨htexts, hb⟩
    obtain ⟨values, hes⟩ := exists_map_textEntry htexts
    refine ⟨values, hes, Ascending.ext_mem fun binding => ?_⟩
    rw [mem_ofList_iff hkeys hes, hb binding.1 binding.2]
    rfl
  · rintro ⟨values, hes, rfl⟩
    refine .mk ?_ fun name s => mem_ofList_iff hkeys hes (name, s)
    rw [hes, List.forall_mem_map]
    exact fun value _ => ⟨value.2, rfl⟩

theorem reads_bindings : Reads Value.IsPlain bindings IsBindings := by
  intro v hv b
  cases hv with
  | @table es hkeys =>
    rw [isBindings_iff hkeys]
    simp only [← mapM_string_eq_ok_iff]
    show (_ >>= fun values => _) = _ ↔ _
    simp only [bind_eq_ok_iff, pure, Except.pure, Except.ok.injEq]
  | _ => exact iff_of_false nofun nofun

/-- Modes are told apart by their names, and no other name is one. -/
theorem modeNamed_eq_ok_iff {name : String} {m : Mode} :
    modeNamed name = .ok m ↔ name = m.name := by
  have hlookup : modes.lookup name = some m ↔ name = m.name := by
    rw [lookup_eq_some_iff (by decide)]
    cases m <;> simp [modes]
  rw [← hlookup, modeNamed]
  cases modes.lookup name with
  | none => exact iff_of_false nofun nofun
  | some m' => rw [Except.ok.injEq, Option.some.injEq]

/-- A mode is a text, unless it is written as a table with one key. -/
theorem reads_mode : Reads NotTable mode IsMode := by
  intro v hv m
  cases v with
  | string name =>
    rw [mode, modeNamed_eq_ok_iff]
    exact ⟨congrArg _, Value.string.inj⟩
  | table es => exact absurd rfl (hv es)
  | _ => exact iff_of_false nofun nofun

end Simple

/-! ## 3. Fields

A field is looked up by its name.  The lemmas have one decoder and one relation as variables
and serve all fields of all structures. -/

section Fields

variable {α : Type} {P : Value → Prop} {decode : Decoder α} {R : Value → α → Prop} {r : Record}
  {es : Entries} {fields : List Field} {key : String} {default a : α} {o : Option α}

/-- A field accepts what its decoder decodes. -/
theorem check_field_eq_ok_iff {v : Value} :
    (field key decode).check v = .ok () ↔ ∃ a, decode v = .ok a := by
  simp only [field, bind_eq_ok_iff, pure, Except.pure, and_true]

/-- Going through the entries asks of each that there is a field for it, which accepts it. -/
theorem checkEntries_eq_ok_iff :
    checkEntries fields es = .ok () ↔
      ∀ e ∈ es, ∃ f, fields.find? (·.name = e.1) = some f ∧ f.check e.2 = .ok () := by
  induction es with
  | nil => exact iff_of_true rfl nofun
  | cons e es ih =>
    obtain ⟨k, v⟩ := e
    rw [List.forall_mem_cons, ← ih, checkEntries]
    cases fields.find? (·.name = k) with
    | none => exact iff_of_false nofun fun h => by simp at h
    | some f =>
      simp only [bind_eq_ok_iff, Option.some.injEq, exists_eq_left']
      exact ⟨fun ⟨_, h⟩ => h, fun h => ⟨(), h⟩⟩

/-- **The entries of a structure pass** if each key is a declared one and what stands at a field
suits it. -/
theorem checkEntries_iff (fields : List Field) (hnames : (fields.map Field.name).Nodup)
    (hkeys : es.keys.Nodup) :
    checkEntries fields es = .ok () ↔ (∀ k ∈ es.keys, k ∈ fields.map Field.name) ∧
      ∀ f ∈ fields, ∀ v, es.lookup f.name = some v → f.check v = .ok () := by
  have hfind {k : String} {f : Field} (hf : fields.find? (·.name = k) = some f) :
      f ∈ fields ∧ f.name = k :=
    ⟨List.mem_of_find?_eq_some hf, by simpa using List.find?_some hf⟩
  rw [checkEntries_eq_ok_iff]
  constructor
  · intro h
    constructor
    · intro k hk
      obtain ⟨e, he, rfl⟩ := List.mem_map.mp hk
      obtain ⟨f, hf, -⟩ := h e he
      exact (hfind hf).2 ▸ List.mem_map_of_mem (hfind hf).1
    · intro f hf v hv
      obtain ⟨f', hf', hcheck⟩ := h _ (mem_of_lookup_eq hv)
      obtain ⟨hmem, hname⟩ := hfind hf'
      rwa [List.inj_on_of_nodup_map hnames hmem hf hname] at hcheck
  · rintro ⟨hdeclared, hcheck⟩ e he
    obtain ⟨f, hf, hname⟩ := List.mem_map.mp (hdeclared e.1 (List.mem_map_of_mem he))
    have hsome : (fields.find? (·.name = e.1)).isSome = true :=
      List.find?_isSome.mpr ⟨f, hf, by simpa using hname⟩
    obtain ⟨f', hf'⟩ := Option.isSome_iff_exists.mp hsome
    obtain ⟨hmem, hname'⟩ := hfind hf'
    exact ⟨f', hf', hcheck f' hmem e.2 (hname' ▸ (lookup_eq_some_iff hkeys).mpr he)⟩

section Reads

variable (h : Reads P decode R) (hP : ∀ v, r.entries.lookup key = some v → P v)

include h hP

/-- **A field that must be there** is read as what stands at its key. -/
theorem Reads.required : r.required key decode = .ok a ↔ Holds R r.entries key a := by
  unfold Record.required Holds
  cases hv : r.entries.lookup key with
  | none => exact iff_of_false nofun nofun
  | some v => simp [h v (hP v hv)]

/-- **A field that may be unset** is unset where nothing stands at its key. -/
theorem Reads.optional : r.optional key decode = .ok o ↔ MayHold R r.entries key o := by
  unfold Record.optional MayHold HoldsOr Holds
  cases hv : r.entries.lookup key with
  | none => simp [eq_comm]
  | some v =>
    simp only [bind_eq_ok_iff, h v (hP v hv), pure, Except.pure, Except.ok.injEq]
    constructor
    · rintro ⟨a, ha, rfl⟩
      exact .inl ⟨v, rfl, a, rfl, ha⟩
    · rintro (⟨w, hw, a, rfl, ha⟩ | ⟨hnone, -⟩)
      · cases hw
        exact ⟨a, ha, rfl⟩
      · cases hnone

/-- **A field with a default** has it where nothing stands at its key, and only there. -/
theorem Reads.withDefault :
    r.withDefault key default decode = .ok a ↔ HoldsOr R default r.entries key a := by
  simp only [Record.withDefault, bind_eq_ok_iff, h.optional hP, pure, Except.pure,
    Except.ok.injEq]
  unfold MayHold HoldsOr Holds
  constructor
  · rintro ⟨o, ⟨v, hv, a, rfl, ha⟩ | ⟨hnone, rfl⟩, rfl⟩
    · exact .inl ⟨v, hv, ha⟩
    · exact .inr ⟨hnone, rfl⟩
  · rintro (⟨v, hv, ha⟩ | ⟨hnone, rfl⟩)
    · exact ⟨some a, .inl ⟨v, hv, a, rfl, ha⟩, rfl⟩
    · exact ⟨none, .inr ⟨hnone, rfl⟩, rfl⟩

end Reads

/-- What is read off a key is said by the one value that stands there. -/
theorem Holds.tells (h : Holds R es key a) : ∀ v, es.lookup key = some v → ∃ a, R v a := by
  rintro v hv
  obtain ⟨w, hw, ha⟩ := h
  cases hw.symm.trans hv
  exact ⟨a, ha⟩

theorem HoldsOr.tells (h : HoldsOr R default es key a) :
    ∀ v, es.lookup key = some v → ∃ a, R v a := by
  rintro v hv
  rcases h with h | ⟨hnone, -⟩
  · exact h.tells v hv
  · cases hnone.symm.trans hv

theorem MayHold.tells (h : MayHold R es key o) : ∀ v, es.lookup key = some v → ∃ a, R v a := by
  intro v hv
  obtain ⟨_, a, -, ha⟩ := HoldsOr.tells h v hv
  exact ⟨a, ha⟩

/-- What stands at a field and says something suits it. -/
theorem Reads.check (h : Reads P decode R) (hP : ∀ v, es.lookup key = some v → P v)
    (htells : ∀ v, es.lookup key = some v → ∃ a, R v a) :
    ∀ v, es.lookup (field key decode).name = some v → (field key decode).check v = .ok () := by
  intro v hv
  obtain ⟨a, ha⟩ := htells v hv
  exact check_field_eq_ok_iff.mpr ⟨a, (h v (hP v hv) a).mpr ha⟩

end Fields

/-! ## 4. Structures

What is left for a structure is to name the relation of each of its fields; the steps from
fields to structures are those of the header. -/

section Structures

variable {α : Type} {es : Entries} {v : Value}

/-- Decoders of simple values have no condition on what stands at a key. -/
theorem anywhere {Q : Value → Prop} : ∀ v, Q v → True := fun _ _ => trivial

/-- The entries of a table, for its fields to be read. -/
def entriesOf (es : Entries) : Record := { entries := es, missing := .missingField }

/-- **A structure that is written as a table** is read if its entries pass. -/
theorem record_table_eq_ok_iff {title : String} {fields : List Field}
    {read : Record → Except SchemaError α} {a : α} :
    (record title fields (.table es) >>= read) = .ok a ↔
      checkEntries fields es = .ok () ∧ read (entriesOf es) = .ok a := by
  simp only [record, Value.entries?, bind_eq_ok_iff, pure, Except.pure, Except.ok.injEq]
  constructor
  · rintro ⟨_, ⟨_, hcheck, rfl⟩, hread⟩
    exact ⟨hcheck, hread⟩
  · rintro ⟨hcheck, hread⟩
    exact ⟨_, ⟨(), hcheck, rfl⟩, hread⟩

/-- What is neither a table nor an array is no structure. -/
theorem record_eq_error {title : String} {fields : List Field} (hplain : v.IsPlain)
    (hitems : NotArray v) (hentries : NotTable v) :
    record title fields v = .error (.wrongType v ("struct " ++ title)) := by
  cases hplain with
  | array h => exact absurd rfl (hitems _)
  | table hkeys h => exact absurd rfl (hentries _)
  | _ => rfl

/-- A structure is written as a table. -/
def IsStructure (v : Value) : Prop := v.IsPlain ∧ NotArray v

/-- **A decoder of structures** reads tables only, and so does what it says of their entries. -/
theorem reads_isTable {title : String} {fields : List Field}
    {read : Record → Except SchemaError α} {R : Entries → α → Prop} {P : Value → Prop}
    (hP : ∀ v, P v → IsStructure v)
    (h : ∀ es, P (.table es) → ∀ a,
      (record title fields (.table es) >>= read) = .ok a ↔ R es a) :
    Reads P (fun v => record title fields v >>= read) (IsTable R) := by
  intro v hv a
  by_cases htable : NotTable v
  · obtain ⟨hplain, hitems⟩ := hP v hv
    show (record title fields v >>= read) = _ ↔ _
    rw [record_eq_error hplain hitems htable]
    refine iff_of_false nofun ?_
    rintro ⟨-⟩
    exact htable _ rfl
  · obtain ⟨es, rfl⟩ := not_forall_not.mp htable
    exact (h es hv a).trans ⟨.mk, fun ⟨h⟩ => h⟩

/-- The smallest structure shows the pattern of the proofs below: from right to left the check
of the entries has to be rebuilt from the relation, field by field. -/
theorem reads_vcs : Reads IsStructure vcs (IsTable ChangeCommand.IsWrittenIn) := by
  refine reads_isTable (fun _ h => h) fun es hes command => ?_
  have hchecked := checkEntries_iff vcsFields (by decide) hes.1.nodup_keys
  rw [record_table_eq_ok_iff]
  simp only [bind_eq_ok_iff, pure, Except.pure, Except.ok.injEq,
    reads_string.required anywhere, reads_list_string.withDefault anywhere]
  constructor
  · rintro ⟨hcheck, program, hprogram, args, hargs, rfl⟩
    exact ⟨(hchecked.mp hcheck).1, hprogram, hargs⟩
  · rintro ⟨hdeclared, hprogram, hargs⟩
    refine ⟨hchecked.mpr ⟨hdeclared, ?_⟩, _, hprogram, _, hargs, rfl⟩
    simp only [vcsFields, List.forall_mem_cons]
    exact ⟨reads_string.check anywhere hprogram.tells,
      reads_list_string.check anywhere hargs.tells, nofun⟩

/-- A tool is what its table says, and it is what it says only if every field suits. -/
theorem reads_tool : Reads IsStructure tool (IsTable Tool.IsWrittenIn) := by
  refine reads_isTable (fun _ h => h) fun es hes t => ?_
  have hchecked := checkEntries_iff toolFields (by decide) hes.1.nodup_keys
  have hplain {key : String} : ∀ v, es.lookup key = some v → v.IsPlain :=
    fun _ hv => hes.1.of_lookup hv
  rw [record_table_eq_ok_iff]
  simp only [bind_eq_ok_iff, pure, Except.pure, Except.ok.injEq,
    reads_string.required anywhere, reads_list_string.withDefault anywhere,
    reads_bindings.withDefault (r := entriesOf es) hplain, reads_string.optional anywhere,
    reads_boolean.withDefault anywhere, reads_code.optional anywhere]
  constructor
  · rintro ⟨hcheck, program, hprogram, args, hargs, fixArgs, hfixArgs, checkArgs, hcheckArgs,
      env, henv, cwd, hcwd, capture, hcapture, needs, hneeds, rfl⟩
    exact ⟨(hchecked.mp hcheck).1, hprogram, hargs, hfixArgs, hcheckArgs, henv, hcwd, hcapture,
      hneeds⟩
  · rintro ⟨hdeclared, hprogram, hargs, hfixArgs, hcheckArgs, henv, hcwd, hcapture, hneeds⟩
    refine ⟨hchecked.mpr ⟨hdeclared, ?_⟩, _, hprogram, _, hargs, _, hfixArgs, _, hcheckArgs, _,
      henv, _, hcwd, _, hcapture, _, hneeds, rfl⟩
    simp only [toolFields, List.forall_mem_cons]
    exact ⟨reads_string.check anywhere hprogram.tells,
      reads_list_string.check anywhere hargs.tells,
      reads_list_string.check anywhere hfixArgs.tells,
      reads_list_string.check anywhere hcheckArgs.tells,
      reads_bindings.check hplain henv.tells, reads_string.check anywhere hcwd.tells,
      reads_boolean.check anywhere hcapture.tells, reads_code.check anywhere hneeds.tells, nofun⟩

/-- **A category is written out**: it and its tools are written as tables, its mode by name. -/
structure IsCategoryOut (v : Value) : Prop where
  category : NotArray v
  mode : ∀ es m, v = .table es → ("mode", m) ∈ es → NotTable m
  tool : ∀ es t, v = .table es → ("tool", t) ∈ es → NotArray t
  fixer : ∀ es t, v = .table es → ("fixer", t) ∈ es → NotArray t

/-- A category has two more structures in it, so what is asked of values is asked of theirs
too. -/
theorem reads_category :
    Reads (fun v => v.IsPlain ∧ IsCategoryOut v) category
      (IsTable CategoryEntry.IsWrittenIn) := by
  refine reads_isTable (fun _ h => ⟨h.1, h.2.category⟩) fun es hes c => ?_
  obtain ⟨hplain, hout⟩ := hes
  have hchecked := checkEntries_iff categoryFields (by decide) hplain.nodup_keys
  have hmode : ∀ v, es.lookup "mode" = some v → NotTable v :=
    fun v hv => hout.mode es v rfl (mem_of_lookup_eq hv)
  have htool : ∀ v, es.lookup "tool" = some v → IsStructure v :=
    fun v hv => ⟨hplain.of_lookup hv, hout.tool es v rfl (mem_of_lookup_eq hv)⟩
  have hfixer : ∀ v, es.lookup "fixer" = some v → IsStructure v :=
    fun v hv => ⟨hplain.of_lookup hv, hout.fixer es v rfl (mem_of_lookup_eq hv)⟩
  rw [record_table_eq_ok_iff]
  simp only [bind_eq_ok_iff, pure, Except.pure, Except.ok.injEq,
    reads_string.required anywhere, reads_list_string.withDefault anywhere,
    reads_string.withDefault anywhere, reads_list_string.required anywhere,
    reads_mode.withDefault (r := entriesOf es) hmode,
    reads_tool.required (r := entriesOf es) htool,
    reads_tool.optional (r := entriesOf es) hfixer]
  constructor
  · rintro ⟨hcheck, key, hkey, aliases, haliases, description, hdescription, roots, hroots,
      ignored, hignored, extensions, hextensions, noise, hnoise, mode, hmode, tool, htool,
      fixer, hfixer, rfl⟩
    exact ⟨(hchecked.mp hcheck).1, hkey, haliases, hdescription, hroots, hignored, hextensions,
      hnoise, hmode, htool, hfixer⟩
  · rintro ⟨hdeclared, hkey, haliases, hdescription, hroots, hignored, hextensions, hnoise,
      hmode', htool', hfixer'⟩
    refine ⟨hchecked.mpr ⟨hdeclared, ?_⟩, _, hkey, _, haliases, _, hdescription, _, hroots, _,
      hignored, _, hextensions, _, hnoise, _, hmode', _, htool', _, hfixer', rfl⟩
    simp only [categoryFields, List.forall_mem_cons]
    exact ⟨reads_string.check anywhere hkey.tells,
      reads_list_string.check anywhere haliases.tells,
      reads_string.check anywhere hdescription.tells,
      reads_list_string.check anywhere hroots.tells,
      reads_list_string.check anywhere hignored.tells,
      reads_list_string.check anywhere hextensions.tells,
      reads_list_string.check anywhere hnoise.tells, reads_mode.check hmode hmode'.tells,
      reads_tool.check htool htool'.tells, reads_tool.check hfixer hfixer'.tells, nofun⟩

end Structures

end Schema

/-! ## 5. Registry files

The document is a structure as well, whose table is given and not looked for. -/

open Schema

/-- **A document is written out**: its structures are written as tables, and its modes by
name. -/
structure Toml.Entries.IsWrittenOut (es : Entries) : Prop where
  vcs : ∀ v, ("vcs", v) ∈ es → NotArray v
  categories : ∀ items, ("category", .array items) ∈ es → ∀ v ∈ items, IsCategoryOut v

/-- **A registry file is what its document says.** -/
theorem RegistryFile.ofEntries_eq_ok_iff {es : Entries} (hplain : (Value.table es).IsPlain)
    (hout : es.IsWrittenOut) {f : RegistryFile} : ofEntries es = .ok f ↔ f.IsWrittenIn es := by
  have hchecked := checkEntries_iff fileFields (by decide) hplain.nodup_keys
  have hvcs : ∀ v, es.lookup "vcs" = some v → IsStructure v :=
    fun v hv => ⟨hplain.of_lookup hv, hout.vcs v (mem_of_lookup_eq hv)⟩
  have hcategories : ∀ v, es.lookup "category" = some v →
      ∀ items, v = .array items → ∀ x ∈ items, x.IsPlain ∧ IsCategoryOut x := by
    rintro v hv items rfl x hx
    exact ⟨(hplain.of_lookup hv).of_item hx, hout.categories items (mem_of_lookup_eq hv) x hx⟩
  have hread : ofEntries es = (do
      checkEntries fileFields es
      return {
        blacklist := ← (entriesOf es).withDefault "blacklist" [] (list string)
        vcs := ← (entriesOf es).withDefault "vcs" .standard Schema.vcs
        categories := ← (entriesOf es).withDefault "category" [] (list Schema.category) }) := rfl
  rw [hread]
  simp only [bind_eq_ok_iff, pure, Except.pure, Except.ok.injEq,
    reads_list_string.withDefault anywhere, reads_vcs.withDefault (r := entriesOf es) hvcs,
    (reads_list reads_category).withDefault (r := entriesOf es) hcategories]
  constructor
  · rintro ⟨_, hcheck, blacklist, hblacklist, command, hcommand, categories, hentries, rfl⟩
    exact ⟨(hchecked.mp hcheck).1, hblacklist, hcommand, hentries⟩
  · rintro ⟨hdeclared, hblacklist, hcommand, hentries⟩
    refine ⟨(), hchecked.mpr ⟨hdeclared, ?_⟩, _, hblacklist, _, hcommand, _, hentries, rfl⟩
    simp only [fileFields, List.forall_mem_cons]
    exact ⟨reads_list_string.check anywhere hblacklist.tells, reads_vcs.check hvcs hcommand.tells,
      (reads_list reads_category).check hcategories hentries.tells, nofun⟩

end LintRun

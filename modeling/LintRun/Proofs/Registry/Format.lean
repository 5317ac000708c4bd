import LintRun.Proofs.Registry.Decoding

/-!
# The format of registry files

`Shape.registry` is the format: which fields there are at each level, which of them must be
there, and of what type they are.  A document that writes its structures as tables and its modes
by name is accepted exactly if it has this shape; what it is decoded to is what it says, with the
defaults where it says nothing; and the order of the keys in its tables is of no consequence
(`schema_law`).

The law is about tables in which no key stands twice.  What `Toml.parse` makes of a text is such a
table (`keysOnce_parse`).

A shape is a syntax tree, and `Shape.Accepts` is about values alone; the decoder is not
mentioned in it, and neither is what a value means.  The two are brought together in two steps,
each of which follows the structure of shapes.

* `Shape.Describes`: a plain value has the shape exactly if it says something by the relation
  of its type.  A field that must be there asks for its key, one with a default is always said
  to be something, and for a table this comes down to its fields (`describes_table`).
* `Schema.Stable`: what a value says, it says with its keys in another order, at any depth.  A
  relation by which a table is read off the values of its keys has this property, since a key
  without a second entry is looked up alike in both orders.

With `RegistryFile.ofEntries_eq_ok_iff`, which says that a decoded file is what its document
says, the three parts of the law are these: something is said, it is what is decoded, and it is
stable.
-/

namespace LintRun

open Toml Schema

/-! ## 1. Shapes

The four tables below are the schema as a reader of the documentation knows it. -/

/-- The types of values in a registry file.  A table has fields, with a name, whether they must
be there, and a type. -/
inductive Shape
  | text
  | flag
  | code
  | mode
  | bindings
  | list (item : Shape)
  | table (fields : List (String × Bool × Shape))

namespace Shape

/-- A field that must be there. -/
def required (name : String) (shape : Shape) : String × Bool × Shape := (name, true, shape)

/-- A field that may be missing. -/
def optional (name : String) (shape : Shape) : String × Bool × Shape := (name, false, shape)

/-- **A value has a shape.** -/
inductive Accepts : Shape → Value → Prop
  | text (s : String) : Accepts .text (.string s)
  | flag (b : Bool) : Accepts .flag (.boolean b)
  | code {n : Int} (hlow : -2147483648 ≤ n) (hhigh : n ≤ 2147483647) :
      Accepts .code (.integer n)
  | mode {name : String} (h : name = "batch" ∨ name = "per-file") :
      Accepts .mode (.string name)
  | bindings {es : Entries} (h : ∀ e ∈ es, ∃ s, e.2 = .string s) : Accepts .bindings (.table es)
  | list {item : Shape} {items : List Value} (h : ∀ v ∈ items, Accepts item v) :
      Accepts (.list item) (.array items)
  | table {fields : List (String × Bool × Shape)} {es : Entries}
      (declared : ∀ k ∈ es.keys, k ∈ fields.map Prod.fst)
      (present : ∀ f ∈ fields, f.2.1 = true → f.1 ∈ es.keys)
      (typed : ∀ f ∈ fields, ∀ e ∈ es, e.1 = f.1 → Accepts f.2.2 e.2) :
      Accepts (.table fields) (.table es)

/-- The table of a tool. -/
def tool : Shape := .table [
  required "program" .text,
  optional "args" (.list .text),
  optional "fix_args" (.list .text),
  optional "check_args" (.list .text),
  optional "env" .bindings,
  optional "cwd" .text,
  optional "capture_stderr" .flag,
  optional "needs_format_status" .code]

/-- The table of a category. -/
def category : Shape := .table [
  required "key" .text,
  optional "aliases" (.list .text),
  optional "description" .text,
  required "roots" (.list .text),
  optional "ignore_roots" (.list .text),
  required "extensions" (.list .text),
  optional "noise" (.list .text),
  optional "mode" .mode,
  required "tool" tool,
  optional "fixer" tool]

/-- The table of the command that lists changed files. -/
def vcs : Shape := .table [
  required "program" .text,
  optional "args" (.list .text)]

/-- **The format** of a registry file. -/
def registry : Shape := .table [
  optional "blacklist" (.list .text),
  optional "vcs" vcs,
  optional "category" (.list category)]

/-! ## 2. What has a shape says something

From left to right a value has to be found that is said, so the proofs build a record from the
fields; from right to left every field of a record shows that its part of the shape is there.
-/

section Describes

variable {α : Type} {R : Value → α → Prop} {shape : Shape} {es : Entries} {key : String}

/-- **A shape describes a relation**: the plain values of the shape are those that say
something. -/
def Describes (shape : Shape) (R : Value → α → Prop) : Prop :=
  ∀ v, v.IsPlain → (shape.Accepts v ↔ ∃ a, R v a)

theorem describes_text : Describes .text IsText := by
  intro v _
  constructor
  · intro h
    cases h with
    | text s => exact ⟨s, rfl⟩
  · rintro ⟨s, rfl⟩
    exact .text s

theorem describes_flag : Describes .flag IsFlag := by
  intro v _
  constructor
  · intro h
    cases h with
    | flag b => exact ⟨b, rfl⟩
  · rintro ⟨b, rfl⟩
    exact .flag b

theorem describes_code : Describes .code IsCode := by
  intro v _
  constructor
  · intro h
    cases h with
    | code hlow hhigh => exact ⟨_, rfl, hlow, hhigh⟩
  · rintro ⟨n, rfl, hlow, hhigh⟩
    exact .code hlow hhigh

theorem describes_mode : Describes .mode IsMode := by
  intro v _
  constructor
  · intro h
    cases h with
    | mode h =>
      rcases h with rfl | rfl
      · exact ⟨.batch, rfl⟩
      · exact ⟨.perFile, rfl⟩
  · rintro ⟨m, rfl⟩
    cases m with
    | batch => exact .mode (.inl rfl)
    | perFile => exact .mode (.inr rfl)

/-- Texts at names without repetition are bindings, which is how bindings are kept. -/
theorem describes_bindings : Describes .bindings IsBindings := by
  intro v hplain
  constructor
  · intro h
    cases h with
    | bindings h =>
      obtain ⟨values, hes⟩ := exists_map_textEntry h
      exact ⟨_, (isBindings_iff hplain.nodup_keys).mpr ⟨values, hes, rfl⟩⟩
  · rintro ⟨b, htexts, -⟩
    exact .bindings htexts

/-- Items that each say something say it together. -/
theorem exists_forall₂ {items : List Value} (h : ∀ v ∈ items, ∃ a, R v a) :
    ∃ as, List.Forall₂ R items as := by
  induction items with
  | nil => exact ⟨[], .nil⟩
  | cons v items ih =>
    obtain ⟨⟨a, ha⟩, hitems⟩ := List.forall_mem_cons.mp h
    obtain ⟨as, has⟩ := ih hitems
    exact ⟨a :: as, .cons ha has⟩

/-- **Lists**, item by item. -/
theorem Describes.list (h : Describes shape R) : Describes (.list shape) (IsList R) := by
  intro v hplain
  constructor
  · intro haccepts
    cases haccepts with
    | list hitems =>
      obtain ⟨as, has⟩ := exists_forall₂ fun v hv => (h v (hplain.of_item hv)).mp (hitems v hv)
      exact ⟨as, .mk has⟩
  · rintro ⟨as, ⟨has⟩⟩
    refine .list fun v hv => (h v (hplain.of_item hv)).mpr ?_
    obtain ⟨a, -, ha⟩ := exists_of_mem_forall₂ has.flip hv
    exact ⟨a, ha⟩

/-- What a field asks of a table. -/
def Passes (es : Entries) (f : String × Bool × Shape) : Prop :=
  (f.2.1 = true → f.1 ∈ es.keys) ∧ ∀ v, es.lookup f.1 = some v → f.2.2.Accepts v

/-- Without repeated keys, what stands at the key of a field is one value or none, so a table
has a shape if its fields pass. -/
theorem accepts_table_iff {fields : List (String × Bool × Shape)} (hkeys : es.keys.Nodup) :
    (Shape.table fields).Accepts (.table es) ↔
      (∀ k ∈ es.keys, k ∈ fields.map Prod.fst) ∧ ∀ f ∈ fields, Passes es f := by
  constructor
  · intro h
    cases h with
    | table declared present typed =>
      exact ⟨declared, fun f hf =>
        ⟨present f hf, fun v hv => typed f hf _ (mem_of_lookup_eq hv) rfl⟩⟩
  · rintro ⟨hdeclared, hfields⟩
    refine .table hdeclared (fun f hf => (hfields f hf).1) ?_
    rintro f hf ⟨k, v⟩ he rfl
    exact (hfields f hf).2 v ((lookup_eq_some_iff hkeys).mpr he)

section Fields

variable (h : Describes shape R) (hplain : (Value.table es).IsPlain)

include h hplain

/-- A field passes if what stands at its key says something. -/
theorem Describes.passes_iff {present : Bool} :
    Passes es (key, present, shape) ↔
      (present = true → key ∈ es.keys) ∧ ∀ v, es.lookup key = some v → ∃ a, R v a := by
  refine and_congr_right fun _ => forall_congr' fun v => forall_congr' fun hv => ?_
  exact h v (hplain.of_lookup hv)

/-- **A field that must be there** says something. -/
theorem Describes.required : Passes es (required key shape) ↔ ∃ a, Holds R es key a := by
  rw [Shape.required, h.passes_iff hplain]
  constructor
  · rintro ⟨hpresent, htells⟩
    cases hv : es.lookup key with
    | none => exact absurd (hpresent rfl) (lookup_eq_none_iff_not_mem.mp hv)
    | some v =>
      obtain ⟨a, ha⟩ := htells v hv
      exact ⟨a, v, hv, ha⟩
  · rintro ⟨a, v, hv, ha⟩
    exact ⟨fun _ => List.mem_map_of_mem (mem_of_lookup_eq hv), Holds.tells ⟨v, hv, ha⟩⟩

/-- **A field with a default** says something whenever what stands there does; the default
itself has no part in it. -/
theorem Describes.optional (default : α) :
    Passes es (optional key shape) ↔ ∃ a, HoldsOr R default es key a := by
  rw [Shape.optional, h.passes_iff hplain]
  constructor
  · rintro ⟨-, htells⟩
    cases hv : es.lookup key with
    | none => exact ⟨default, .inr ⟨hv, rfl⟩⟩
    | some v =>
      obtain ⟨a, ha⟩ := htells v hv
      exact ⟨a, .inl ⟨v, hv, ha⟩⟩
  · rintro ⟨a, ha⟩
    exact ⟨nofun, ha.tells⟩

/-- **A field that may be unset** is one whose default is to be unset. -/
theorem Describes.mayHold : Passes es (Shape.optional key shape) ↔ ∃ o, MayHold R es key o := by
  refine Describes.optional (R := fun v o => ∃ a, o = some a ∧ R v a) ?_ hplain none
  refine fun v hv => (h v hv).trans ?_
  exact ⟨fun ⟨a, ha⟩ => ⟨some a, a, rfl, ha⟩, fun ⟨_, a, _, ha⟩ => ⟨a, ha⟩⟩

end Fields

/-- A table has a shape if its entries say something. -/
theorem describes_table {fields : List (String × Bool × Shape)} {R : Entries → α → Prop}
    (h : ∀ es : Entries, (Value.table es).IsPlain →
      ((∀ k ∈ es.keys, k ∈ fields.map Prod.fst) ∧ (∀ f ∈ fields, Passes es f) ↔ ∃ a, R es a)) :
    Describes (.table fields) (IsTable R) := by
  intro v hplain
  constructor
  · intro haccepts
    cases haccepts with
    | @table _ es declared present typed =>
      have haccepts := Accepts.table declared present typed
      obtain ⟨a, ha⟩ := (h es hplain).mp ((accepts_table_iff hplain.nodup_keys).mp haccepts)
      exact ⟨a, .mk ha⟩
  · rintro ⟨a, ⟨ha⟩⟩
    exact (accepts_table_iff hplain.nodup_keys).mpr ((h _ hplain).mpr ⟨a, ha⟩)

theorem describes_vcs : Describes vcs (IsTable ChangeCommand.IsWrittenIn) := by
  refine describes_table fun es hes => ?_
  simp only [List.forall_mem_cons, describes_text.required hes,
    describes_text.list.optional hes []]
  constructor
  · rintro ⟨hdeclared, ⟨program, hprogram⟩, ⟨args, hargs⟩, -⟩
    exact ⟨⟨program, args⟩, hdeclared, hprogram, hargs⟩
  · rintro ⟨command, h⟩
    exact ⟨h.declared, ⟨_, h.program⟩, ⟨_, h.arguments⟩, nofun⟩

/-- The relation has eight fields and the shape has eight; each pair is one of the three kinds.
-/
theorem describes_tool : Describes tool (IsTable Tool.IsWrittenIn) := by
  refine describes_table fun es hes => ?_
  simp only [List.forall_mem_cons, describes_text.required hes,
    describes_text.list.optional hes [],
    describes_bindings.optional hes .empty, describes_text.mayHold hes,
    describes_flag.optional hes false, describes_code.mayHold hes]
  constructor
  · rintro ⟨hdeclared, ⟨program, hprogram⟩, ⟨args, hargs⟩, ⟨fixArgs, hfixArgs⟩,
      ⟨checkArgs, hcheckArgs⟩, ⟨env, henv⟩, ⟨cwd, hcwd⟩, ⟨capture, hcapture⟩, ⟨needs, hneeds⟩, -⟩
    exact ⟨⟨program, args, fixArgs, checkArgs, env, cwd, capture, needs⟩, hdeclared, hprogram,
      hargs, hfixArgs, hcheckArgs, henv, hcwd, hcapture, hneeds⟩
  · rintro ⟨t, h⟩
    exact ⟨h.declared, ⟨_, h.program⟩, ⟨_, h.arguments⟩, ⟨_, h.fixArguments⟩,
      ⟨_, h.checkArguments⟩, ⟨_, h.environment⟩, ⟨_, h.directory⟩, ⟨_, h.capturesErrors⟩,
      ⟨_, h.needsFormatCode⟩, nofun⟩

/-- A category without a mode is one for all files at once, so the field of the mode has a
default. -/
theorem describes_category : Describes category (IsTable CategoryEntry.IsWrittenIn) := by
  refine describes_table fun es hes => ?_
  simp only [List.forall_mem_cons, describes_text.required hes,
    describes_text.list.optional hes [],
    describes_text.optional hes "", describes_text.list.required hes,
    describes_mode.optional hes .batch, describes_tool.required hes,
    describes_tool.mayHold hes]
  constructor
  · rintro ⟨hdeclared, ⟨key, hkey⟩, ⟨aliases, haliases⟩, ⟨description, hdescription⟩,
      ⟨roots, hroots⟩, ⟨ignored, hignored⟩, ⟨extensions, hextensions⟩, ⟨noise, hnoise⟩,
      ⟨mode, hmode⟩, ⟨tool, htool⟩, ⟨fixer, hfixer⟩, -⟩
    exact ⟨⟨key, aliases, description, roots, ignored, extensions, noise, mode, tool, fixer⟩,
      hdeclared, hkey, haliases, hdescription, hroots, hignored, hextensions, hnoise, hmode,
      htool, hfixer⟩
  · rintro ⟨c, h⟩
    exact ⟨h.declared, ⟨_, h.key⟩, ⟨_, h.aliases⟩, ⟨_, h.description⟩, ⟨_, h.roots⟩,
      ⟨_, h.ignoreRoots⟩, ⟨_, h.extensions⟩, ⟨_, h.noise⟩, ⟨_, h.mode⟩, ⟨_, h.tool⟩,
      ⟨_, h.fixer⟩, nofun⟩

theorem describes_registry : Describes registry (IsTable RegistryFile.IsWrittenIn) := by
  refine describes_table fun es hes => ?_
  simp only [List.forall_mem_cons, describes_text.list.optional hes [],
    describes_vcs.optional hes .standard,
    describes_category.list.optional hes []]
  constructor
  · rintro ⟨hdeclared, ⟨blacklist, hblacklist⟩, ⟨command, hcommand⟩,
      ⟨categories, hcategories⟩, -⟩
    exact ⟨⟨blacklist, command, categories⟩, hdeclared, hblacklist, hcommand, hcategories⟩
  · rintro ⟨f, h⟩
    exact ⟨h.declared, ⟨_, h.blacklist⟩, ⟨_, h.vcs⟩, ⟨_, h.categories⟩, nofun⟩

end Describes

end Shape

/-! ## 3. The order of keys

`Toml.Value.Reorders` permutes the entries of any table in a value and leaves lists as they
are. -/

section Stable

variable {α : Type} {R : Value → α → Prop} {es gs : Entries} {v w : Value} {key : String}
  {default a : α} {o : Option α}

/-- **A relation goes by no order of keys.** -/
def Schema.Stable (R : Value → α → Prop) : Prop :=
  ∀ v w, v.IsPlain → v.Reorders w → ∀ a, R v a → R w a

theorem stable_text : Stable IsText := by
  rintro _ w - h s rfl
  cases h
  rfl

theorem stable_flag : Stable IsFlag := by
  rintro _ w - h b rfl
  cases h
  rfl

theorem stable_code : Stable IsCode := by
  rintro _ w - h n ⟨rfl, hn⟩
  cases h
  exact ⟨rfl, hn⟩

theorem stable_mode : Stable IsMode := by
  rintro _ w - h m rfl
  cases h
  rfl

/-- A list keeps the order of its items, so only what is in them is reordered. -/
theorem Schema.Stable.list (hR : Stable R) : Stable (IsList R) := by
  rintro _ w hplain h as ⟨hitems⟩
  rename_i items
  obtain ⟨ws, rfl, hws⟩ := h.of_array
  replace hplain : ∀ v ∈ items, v.IsPlain := fun v hv => hplain.of_item hv
  clear h
  refine .mk ?_
  induction hws generalizing as with
  | nil => exact hitems
  | cons hvw _ ih =>
    cases hitems with
    | cons ha hitems =>
      obtain ⟨hv, hplain⟩ := List.forall_mem_cons.mp hplain
      exact .cons (hR _ _ hv hvw _ ha) (ih _ hitems hplain)

/-- Bindings are looked up by name, and a table of texts has no tables in it. -/
theorem stable_bindings : Stable IsBindings := by
  rintro _ w hplain h b ⟨htexts, hb⟩
  obtain ⟨_, gs, rfl, -, -⟩ := h.of_table
  have hback := h.symm hplain
  refine .mk (fun g hg => ?_) fun name s => ?_
  · obtain ⟨v, hv, hvw⟩ := h.exists_of_mem hg
    obtain ⟨s, hs⟩ := htexts _ hv
    exact ⟨s, (stable_text _ _ (hplain.of_mem hv) hvw s hs)⟩
  · rw [hb]
    constructor
    · intro hmem
      obtain ⟨v, hv, hvw⟩ := hback.exists_of_mem hmem
      cases hvw
      exact hv
    · intro hmem
      obtain ⟨v, hv, hvw⟩ := h.exists_of_mem hmem
      cases hvw
      exact hv

section Reordered

variable (hplain : (Value.table es).IsPlain) (h : (Value.table es).Reorders (.table gs))

include hplain h

/-- What stands at a key stands there in the other order, perhaps reordered within. -/
theorem Schema.Holds.reorder (ha : Holds R es key a) (hR : Stable R) : Holds R gs key a := by
  obtain ⟨v, hv, ha⟩ := ha
  obtain ⟨w, hw, hvw⟩ := h.lookup hplain.nodup_keys hv
  exact ⟨w, hw, hR v w (hplain.of_lookup hv) hvw a ha⟩

theorem Schema.HoldsOr.reorder (ha : HoldsOr R default es key a) (hR : Stable R) :
    HoldsOr R default gs key a := by
  rcases ha with ha | ⟨hnone, rfl⟩
  · exact .inl (ha.reorder hplain h hR)
  · refine .inr ⟨?_, rfl⟩
    rw [lookup_eq_none_iff_not_mem] at hnone ⊢
    exact fun hmem => hnone (h.mem_keys_iff.mpr hmem)

theorem Schema.MayHold.reorder (ho : MayHold R es key o) (hR : Stable R) : MayHold R gs key o := by
  refine HoldsOr.reorder hplain h ho ?_
  rintro v w hv hvw _ ⟨a, rfl, ha⟩
  exact ⟨a, rfl, hR v w hv hvw a ha⟩

theorem ChangeCommand.IsWrittenIn.reorder {command : ChangeCommand}
    (hwritten : command.IsWrittenIn es) : command.IsWrittenIn gs where
  declared := fun k hk => hwritten.declared k (h.mem_keys_iff.mpr hk)
  program := hwritten.program.reorder hplain h stable_text
  arguments := hwritten.arguments.reorder hplain h stable_text.list

theorem Tool.IsWrittenIn.reorder {t : Tool} (hwritten : t.IsWrittenIn es) : t.IsWrittenIn gs where
  declared := fun k hk => hwritten.declared k (h.mem_keys_iff.mpr hk)
  program := hwritten.program.reorder hplain h stable_text
  arguments := hwritten.arguments.reorder hplain h stable_text.list
  fixArguments := hwritten.fixArguments.reorder hplain h stable_text.list
  checkArguments := hwritten.checkArguments.reorder hplain h stable_text.list
  environment := hwritten.environment.reorder hplain h stable_bindings
  directory := hwritten.directory.reorder hplain h stable_text
  capturesErrors := hwritten.capturesErrors.reorder hplain h stable_flag
  needsFormatCode := hwritten.needsFormatCode.reorder hplain h stable_code

end Reordered

/-- **Tables**, once what their entries say is known to be stable. -/
theorem stable_table {R : Entries → α → Prop}
    (hR : ∀ es gs, (Value.table es).IsPlain → (Value.table es).Reorders (.table gs) →
      ∀ a, R es a → R gs a) : Stable (IsTable R) := by
  rintro _ w hplain h a ⟨ha⟩
  obtain ⟨_, gs, rfl, -, -⟩ := h.of_table
  exact .mk (hR _ gs hplain h a ha)

theorem stable_vcs : Stable (IsTable ChangeCommand.IsWrittenIn) :=
  stable_table fun _ _ hplain h _ => ChangeCommand.IsWrittenIn.reorder hplain h

theorem stable_tool : Stable (IsTable Tool.IsWrittenIn) :=
  stable_table fun _ _ hplain h _ => Tool.IsWrittenIn.reorder hplain h

theorem stable_category : Stable (IsTable CategoryEntry.IsWrittenIn) := by
  refine stable_table fun es gs hplain h c hwritten => ?_
  exact {
    declared := fun k hk => hwritten.declared k (h.mem_keys_iff.mpr hk)
    key := hwritten.key.reorder hplain h stable_text
    aliases := hwritten.aliases.reorder hplain h stable_text.list
    description := hwritten.description.reorder hplain h stable_text
    roots := hwritten.roots.reorder hplain h stable_text.list
    ignoreRoots := hwritten.ignoreRoots.reorder hplain h stable_text.list
    extensions := hwritten.extensions.reorder hplain h stable_text.list
    noise := hwritten.noise.reorder hplain h stable_text.list
    mode := hwritten.mode.reorder hplain h stable_mode
    tool := hwritten.tool.reorder hplain h stable_tool
    fixer := hwritten.fixer.reorder hplain h stable_tool }

/-- **A document says the same** with its keys in another order. -/
theorem RegistryFile.IsWrittenIn.reorder {f : RegistryFile} (hplain : (Value.table es).IsPlain)
    (h : (Value.table es).Reorders (.table gs)) (hwritten : f.IsWrittenIn es) :
    f.IsWrittenIn gs where
  declared := fun k hk => hwritten.declared k (h.mem_keys_iff.mpr hk)
  blacklist := hwritten.blacklist.reorder hplain h stable_text.list
  vcs := hwritten.vcs.reorder hplain h stable_vcs
  categories := hwritten.categories.reorder hplain h stable_category.list

theorem Schema.NotArray.reorder (hv : NotArray v) (h : v.Reorders w) : NotArray w := by
  rintro items rfl
  cases h with
  | same => exact hv items rfl
  | array h => exact hv _ rfl

theorem Schema.NotTable.reorder (hv : NotTable v) (h : v.Reorders w) : NotTable w := by
  rintro es rfl
  cases h with
  | same => exact hv es rfl
  | table h hperm => exact hv _ rfl

theorem Schema.IsCategoryOut.reorder (hv : IsCategoryOut v) (h : v.Reorders w) :
    IsCategoryOut w := by
  have hentry {P : Value → Prop} {key : String}
      (hP : ∀ es x, v = .table es → (key, x) ∈ es → P x)
      (hstable : ∀ x y, P x → x.Reorders y → P y) :
      ∀ gs y, w = .table gs → (key, y) ∈ gs → P y := by
    rintro gs y rfl hy
    cases h with
    | same => exact hP gs y rfl hy
    | table hentries hperm =>
      obtain ⟨x, hx, hxy⟩ := (Value.Reorders.table hentries hperm).exists_of_mem hy
      exact hstable x y (hP _ x rfl hx) hxy
  exact {
    category := hv.category.reorder h
    mode := hentry hv.mode fun _ _ => NotTable.reorder
    tool := hentry hv.tool fun _ _ => NotArray.reorder
    fixer := hentry hv.fixer fun _ _ => NotArray.reorder }

/-- To be written out is a matter of values as well, not of their order. -/
theorem Toml.Entries.IsWrittenOut.reorder (hout : Entries.IsWrittenOut es)
    (h : (Value.table es).Reorders (.table gs)) : Entries.IsWrittenOut gs where
  vcs := by
    intro w hw
    obtain ⟨v, hv, hvw⟩ := h.exists_of_mem hw
    exact (hout.vcs v hv).reorder hvw
  categories := by
    intro ws hws w hw
    obtain ⟨v, hv, hvw⟩ := h.exists_of_mem hws
    cases hvw with
    | same => exact hout.categories ws hv w hw
    | array hitems =>
      obtain ⟨x, hx, hxw⟩ := exists_of_mem_forall₂ hitems hw
      exact (hout.categories _ hv x hx).reorder hxw

end Stable

/-! ## 4. The law

It remains to see that a document in another order is plain and written out again, so that the
decoder can be read by the same relation. -/

/-- **The schema is the format.**  A document without date-times, whose structures are written as
tables and whose modes by name, is decoded if it has the shape of a registry file; it is decoded
to what it says, with the defaults where it says nothing; and with the keys of any of its tables
in another order it is decoded to the same. -/
theorem schema_law (es : Entries) (hplain : (Value.table es).IsPlain)
    (hout : Entries.IsWrittenOut es) :
    ((∃ f, RegistryFile.ofEntries es = .ok f) ↔ Shape.registry.Accepts (.table es)) ∧
      (∀ f, RegistryFile.ofEntries es = .ok f ↔ f.IsWrittenIn es) ∧
      ∀ gs, (Value.table es).Reorders (.table gs) →
        ∀ f, RegistryFile.ofEntries gs = .ok f ↔ RegistryFile.ofEntries es = .ok f := by
  have hdecoded (f : RegistryFile) := RegistryFile.ofEntries_eq_ok_iff (f := f) hplain hout
  refine ⟨?_, hdecoded, fun gs h f => ?_⟩
  · rw [Shape.describes_registry _ hplain]
    constructor
    · rintro ⟨f, hf⟩
      exact ⟨f, .mk ((hdecoded f).mp hf)⟩
    · rintro ⟨f, ⟨hf⟩⟩
      exact ⟨f, (hdecoded f).mpr hf⟩
  · have hplain' := hplain.of_reorders h
    rw [hdecoded, RegistryFile.ofEntries_eq_ok_iff hplain' (hout.reorder h)]
    exact ⟨.reorder hplain' (h.symm hplain), .reorder hplain h⟩

namespace Example

/-- A tool with its keys in no particular order. -/
def formatter : Entries := [
  ("env", .table [("B", .string "2"), ("A", .string "1")]),
  ("needs_format_status", .integer 2),
  ("program", .string "gofmt")]

/-- A category with its tool first. -/
def formatted : Entries := [
  ("tool", .table formatter),
  ("mode", .string "per-file"),
  ("extensions", .array [.string "go"]),
  ("roots", .array [.string "src"]),
  ("key", .string "go")]

/-- A document that leaves out what can be left out. -/
def sparse : Entries := [
  ("vcs", .table [("program", .string "hg")]),
  ("category", .array [.table formatted])]

theorem isPlain_formatter : (Value.table formatter).IsPlain := by
  refine .table (by decide) ?_
  simp only [formatter, List.forall_mem_cons]
  refine ⟨.table (by decide) ?_, .integer 2, .string _, nofun⟩
  simp only [List.forall_mem_cons]
  exact ⟨.string _, .string _, nofun⟩

theorem isPlain_formatted : (Value.table formatted).IsPlain := by
  have htexts (s : String) : (Value.array [.string s]).IsPlain :=
    .array (List.forall_mem_singleton.mpr (.string s))
  refine .table (by decide) ?_
  simp only [formatted, List.forall_mem_cons]
  exact ⟨isPlain_formatter, .string _, htexts _, htexts _, .string _, nofun⟩

theorem isPlain_sparse : (Value.table sparse).IsPlain := by
  refine .table (by decide) ?_
  simp only [sparse, List.forall_mem_cons]
  refine ⟨.table (by decide) ?_, .array ?_, nofun⟩
  · exact List.forall_mem_singleton.mpr (.string _)
  · exact List.forall_mem_singleton.mpr isPlain_formatted

theorem isWrittenOut_sparse : Entries.IsWrittenOut sparse where
  vcs := by
    intro v hv
    simp [sparse] at hv
    simp [hv, NotArray]
  categories := by
    intro items hitems v hv
    simp [sparse] at hitems
    subst hitems
    obtain rfl := List.mem_singleton.mp hv
    refine ⟨nofun, ?_, ?_, ?_⟩
    · rintro _ m ⟨⟩ hm
      simp [formatted] at hm
      simp [hm, NotTable]
    · rintro _ t ⟨⟩ ht
      simp [formatted] at ht
      simp [ht, NotArray]
    · rintro _ t ⟨⟩ ht
      simp [formatted] at ht

/-- The document that leaves out what can be left out is accepted, its defaults are filled in,
and its bindings come out in the order of their names. -/
theorem schema_law_sparse :
    Shape.registry.Accepts (.table sparse) ∧
      ∃ f, RegistryFile.ofEntries sparse = .ok f ∧
        f.blacklist = [] ∧ f.vcs = { program := "hg", arguments := [] } ∧
        f.categories.map (·.mode) = [.perFile] ∧
        f.categories.map (·.tool.needsFormatCode) = [some 2] ∧
        f.categories.map (·.tool.environment.toList) = [[("A", "1"), ("B", "2")]] ∧
        ∀ gs, (Value.table sparse).Reorders (.table gs) → RegistryFile.ofEntries gs = .ok f := by
  obtain ⟨haccepts, -, horder⟩ := schema_law sparse isPlain_sparse isWrittenOut_sparse
  obtain ⟨f, hf⟩ : ∃ f, RegistryFile.ofEntries sparse = .ok f := ⟨_, rfl⟩
  refine ⟨haccepts.mp ⟨f, hf⟩, f, hf, ?_⟩
  have hsame (gs : Entries) (h : (Value.table sparse).Reorders (.table gs)) :
      RegistryFile.ofEntries gs = .ok f := (horder gs h f).mpr hf
  cases hf
  exact ⟨rfl, rfl, rfl, rfl, rfl, hsame⟩

end Example

end LintRun

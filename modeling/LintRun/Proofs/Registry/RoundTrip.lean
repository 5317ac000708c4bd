import LintRun.Proofs.Registry.Decoding

/-!
# Writing and reading registry files

The table that `RegistryFile.toEntries` writes says what the file is
(`RegistryFile.isWrittenIn_toEntries`): unset fields are left out, which is what the absence of a
key stands for, and what could be taken for a default is written all the same.  So the file is
read back from it (`round_trip_law`).

The proof never runs the decoder.  What is written is read off as entries in which each key is
looked up once; a field that is left out is a key that is missing, wherever in the table the
others stand (`mayHold_optionalEntry`).  Then the decoder's own law
(`RegistryFile.ofEntries_eq_ok_iff`) says what is read.  It has two conditions, that no key is
written twice (`isPlain_toEntries`) and that structures are written as tables
(`isWrittenOut_toEntries`), and both are seen from the keys that are written.

Exit codes are the one place where a file can hold what cannot be read back: the number of the
model has no bound, and the number of a file must fit a signed word of 32 bits.
-/

namespace LintRun

open Toml Schema

/-! ## 1. Simple values

Each writer of a simple value is inverse to the relation of its type. -/

theorem isList_ofStrings (texts : List String) : IsList IsText (ofStrings texts) texts := by
  refine .mk ?_
  rw [List.forall₂_map_left_iff, List.forall₂_same]
  exact fun _ _ => rfl

theorem isPlain_ofStrings (texts : List String) : (ofStrings texts).IsPlain := by
  refine .array ?_
  rw [List.forall_mem_map]
  exact fun s _ => .string s

/-- The table of some bindings. -/
def ofBindings (b : Bindings) : Value := .table (b.toList.map textEntry)

/-- Bindings have each name once, so that what is written at a name is what it stands for. -/
theorem isBindings_ofBindings (b : Bindings) : IsBindings (ofBindings b) b := by
  refine .mk ?_ fun name s => ?_
  · rw [List.forall_mem_map]
    exact fun value _ => ⟨value.2, rfl⟩
  · exact (List.mem_map_of_injective textEntry_injective (a := (name, s))).symm

theorem isPlain_ofBindings (b : Bindings) : (ofBindings b).IsPlain := by
  refine .table ?_ ?_
  · rw [Entries.keys, List.map_map]
    show (b.toList.map Prod.fst).Nodup
    rw [List.nodup_iff_pairwise_ne, List.pairwise_map]
    exact b.ascending.imp fun hlt he => absurd (he ▸ hlt) OrderedKeys.lt_irrefl
  · rw [List.forall_mem_map]
    exact fun value _ => .string _

section Optional

variable {α : Type} {R : Value → α → Prop} {before after : Entries} {name : String}
  {write : α → Value} {o : Option α}

/-- **A field that is left out when it is unset** says whether it is set. -/
theorem mayHold_optionalEntry (hbefore : before.lookup name = none)
    (hafter : after.lookup name = none) (h : ∀ a ∈ o, R (write a) a) :
    MayHold R (before ++ optionalEntry name (o.map write) ++ after) name o := by
  unfold MayHold HoldsOr Holds
  rw [List.lookup_append, List.lookup_append, hbefore, hafter]
  cases o with
  | none => exact .inr ⟨rfl, rfl⟩
  | some a => exact .inl ⟨write a, by simp [optionalEntry], a, rfl, h a rfl⟩

/-- A field that may be left out has its own key or none. -/
theorem keys_optionalEntry (name : String) (v : Option Value) :
    (optionalEntry name v).keys.Sublist [name] := by
  cases v with
  | none => exact List.nil_sublist _
  | some v => exact List.Sublist.refl _

theorem isPlain_optionalEntry (h : ∀ a ∈ o, (write a).IsPlain) :
    ∀ e ∈ optionalEntry name (o.map write), e.2.IsPlain := by
  cases o with
  | none => nofun
  | some a => exact List.forall_mem_singleton.mpr (h a rfl)

end Optional

/-! ## 2. Structures

The keys of a written structure are a sublist of the declared ones, in declared order.  That
they are declared and that none stands twice both follow from this. -/

/-- An exit code that fits the type it is kept in. -/
def Tool.Fits (t : Tool) : Prop := ∀ n ∈ t.needsFormatCode, -2147483648 ≤ n ∧ n ≤ 2147483647

/-- The entries of a tool up to the first that may be left out. -/
def Tool.firstEntries (t : Tool) : Entries := [
  ("program", .string t.program),
  ("args", ofStrings t.arguments),
  ("fix_args", ofStrings t.fixArguments),
  ("check_args", ofStrings t.checkArguments),
  ("env", ofBindings t.environment)]

/-- The entries of a tool. -/
def Tool.toEntries (t : Tool) : Entries :=
  t.firstEntries ++ optionalEntry "cwd" (t.directory.map .string) ++
    [("capture_stderr", .boolean t.capturesErrors)] ++
    optionalEntry "needs_format_status" (t.needsFormatCode.map .integer)

theorem keys_tool (t : Tool) : t.toEntries.keys.Sublist ["program", "args", "fix_args",
    "check_args", "env", "cwd", "capture_stderr", "needs_format_status"] := by
  simp only [Tool.toEntries, Entries.keys, List.map_append]
  exact (((List.Sublist.refl ["program", "args", "fix_args", "check_args", "env"]).append
    (keys_optionalEntry "cwd" _)).append (List.Sublist.refl ["capture_stderr"])).append
    (keys_optionalEntry "needs_format_status" _)

/-- **What is written of a tool says what the tool is**, field by field. -/
theorem isWrittenIn_tool {t : Tool} (h : t.Fits) : t.IsWrittenIn t.toEntries where
  declared := fun _ hk => (keys_tool t).subset hk
  program := ⟨_, rfl, rfl⟩
  arguments := .inl ⟨_, rfl, isList_ofStrings _⟩
  fixArguments := .inl ⟨_, rfl, isList_ofStrings _⟩
  checkArguments := .inl ⟨_, rfl, isList_ofStrings _⟩
  environment := .inl ⟨_, rfl, isBindings_ofBindings _⟩
  directory := by
    rw [Tool.toEntries, List.append_assoc]
    refine mayHold_optionalEntry rfl ?_ fun _ _ => rfl
    cases t.needsFormatCode <;> rfl
  capturesErrors := by
    refine .inl ⟨_, ?_, rfl⟩
    unfold Tool.toEntries
    cases t.directory <;> rfl
  needsFormatCode := by
    rw [Tool.toEntries, ← List.append_nil (_ ++ optionalEntry "needs_format_status" _)]
    refine mayHold_optionalEntry ?_ rfl fun n hn => ⟨rfl, h n hn⟩
    cases t.directory <;> rfl

theorem isPlain_tool (t : Tool) : (Value.table t.toEntries).IsPlain := by
  refine .table ((keys_tool t).nodup (by decide)) ?_
  simp only [Tool.toEntries, Tool.firstEntries, List.forall_mem_append, List.forall_mem_cons]
  have hstrings := isPlain_ofStrings
  exact ⟨⟨⟨⟨.string _, hstrings _, hstrings _, hstrings _, isPlain_ofBindings _, nofun⟩,
    isPlain_optionalEntry fun _ _ => .string _⟩, .boolean _, nofun⟩,
    isPlain_optionalEntry fun _ _ => .integer _⟩

/-- **The table of a tool** says what the tool is. -/
theorem isTable_ofTool {t : Tool} (h : t.Fits) : IsTable Tool.IsWrittenIn (ofTool t) t :=
  .mk (isWrittenIn_tool h)

/-- The entries of a category. -/
def CategoryEntry.toEntries (c : CategoryEntry) : Entries := [
  ("key", .string c.key),
  ("aliases", ofStrings c.aliases),
  ("description", .string c.description),
  ("roots", ofStrings c.roots),
  ("ignore_roots", ofStrings c.ignoreRoots),
  ("extensions", ofStrings c.extensions),
  ("noise", ofStrings c.noise),
  ("mode", .string c.mode.name),
  ("tool", ofTool c.tool)] ++
  optionalEntry "fixer" (c.fixer.map ofTool)

theorem keys_category (c : CategoryEntry) : c.toEntries.keys.Sublist ["key", "aliases",
    "description", "roots", "ignore_roots", "extensions", "noise", "mode", "tool", "fixer"] := by
  simp only [CategoryEntry.toEntries, Entries.keys, List.map_append]
  exact (List.Sublist.refl ["key", "aliases", "description", "roots", "ignore_roots",
    "extensions", "noise", "mode", "tool"]).append (keys_optionalEntry "fixer" _)

/-- The exit codes of a category fit the type they are kept in. -/
def CategoryEntry.Fits (c : CategoryEntry) : Prop := c.tool.Fits ∧ ∀ t ∈ c.fixer, t.Fits

/-- **What is written of a category says what the category is**, its tools included. -/
theorem isWrittenIn_category {c : CategoryEntry} (h : c.Fits) : c.IsWrittenIn c.toEntries where
  declared := fun _ hk => (keys_category c).subset hk
  key := ⟨_, rfl, rfl⟩
  aliases := .inl ⟨_, rfl, isList_ofStrings _⟩
  description := .inl ⟨_, rfl, rfl⟩
  roots := ⟨_, rfl, isList_ofStrings _⟩
  ignoreRoots := .inl ⟨_, rfl, isList_ofStrings _⟩
  extensions := ⟨_, rfl, isList_ofStrings _⟩
  noise := .inl ⟨_, rfl, isList_ofStrings _⟩
  mode := .inl ⟨_, rfl, rfl⟩
  tool := ⟨_, rfl, isTable_ofTool h.1⟩
  fixer := by
    rw [CategoryEntry.toEntries, ← List.append_nil (_ ++ optionalEntry "fixer" _)]
    exact mayHold_optionalEntry rfl rfl fun t ht => isTable_ofTool (h.2 t ht)

theorem isPlain_category (c : CategoryEntry) : (Value.table c.toEntries).IsPlain := by
  refine .table ((keys_category c).nodup (by decide)) ?_
  simp only [CategoryEntry.toEntries, List.forall_mem_append, List.forall_mem_cons]
  have hstrings := isPlain_ofStrings
  exact ⟨⟨.string _, hstrings _, .string _, hstrings _, hstrings _, hstrings _, hstrings _,
    .string _, isPlain_tool _, nofun⟩, isPlain_optionalEntry fun t _ => isPlain_tool t⟩

/-- What stands at a key of a plain table is what looking the key up finds. -/
theorem eq_of_lookup {es : Entries} {key : String} {v w : Value} (h : (Value.table es).IsPlain)
    (hv : es.lookup key = some v) (hw : (key, w) ∈ es) : w = v :=
  Option.some.inj (((lookup_eq_some_iff h.nodup_keys).mpr hw).symm.trans hv)

/-- Tools are written as tables and modes by their names. -/
theorem isCategoryOut_ofCategory (c : CategoryEntry) : IsCategoryOut (ofCategory c) where
  category := nofun
  mode := by
    rintro _ m ⟨⟩ hm
    obtain rfl := eq_of_lookup (isPlain_category c) rfl hm
    nofun
  tool := by
    rintro _ t ⟨⟩ ht
    obtain rfl := eq_of_lookup (isPlain_category c) rfl ht
    nofun
  fixer := by
    rintro _ t ⟨⟩ ht
    have hfixer : c.toEntries.lookup "fixer" = c.fixer.map ofTool := by
      unfold CategoryEntry.toEntries
      cases c.fixer <;> rfl
    have hwritten := (lookup_eq_some_iff (isPlain_category c).nodup_keys).mpr ht
    obtain ⟨tool, -, rfl⟩ := Option.map_eq_some_iff.mp (hfixer.symm.trans hwritten)
    nofun

/-! ## 3. Registry files

The document has no field that is ever left out: a list without items is written as one, and so
is the command for changed files where it is the usual one. -/

/-- **What is written says what the file is.** -/
theorem RegistryFile.isWrittenIn_toEntries {f : RegistryFile} (h : ∀ c ∈ f.categories, c.Fits) :
    f.IsWrittenIn f.toEntries where
  declared := fun _ hk => hk
  blacklist := .inl ⟨_, rfl, isList_ofStrings _⟩
  vcs := by
    refine .inl ⟨_, rfl, .mk ?_⟩
    exact ⟨fun _ hk => hk, ⟨_, rfl, rfl⟩, .inl ⟨_, rfl, isList_ofStrings _⟩⟩
  categories := by
    refine .inl ⟨_, rfl, .mk ?_⟩
    rw [List.forall₂_map_left_iff, List.forall₂_same]
    exact fun c hc => .mk (isWrittenIn_category (h c hc))

theorem RegistryFile.isPlain_toEntries (f : RegistryFile) : (Value.table f.toEntries).IsPlain := by
  refine .table (show ["blacklist", "vcs", "category"].Nodup by decide) ?_
  simp only [toEntries, List.forall_mem_cons]
  refine ⟨isPlain_ofStrings _, .table (show ["program", "args"].Nodup by decide) ?_, .array ?_,
    nofun⟩
  · simp only [List.forall_mem_cons]
    exact ⟨.string _, isPlain_ofStrings _, nofun⟩
  · rw [List.forall_mem_map]
    exact fun c _ => isPlain_category c

theorem RegistryFile.isWrittenOut_toEntries (f : RegistryFile) :
    Entries.IsWrittenOut f.toEntries where
  vcs := by
    intro v hv
    obtain rfl := eq_of_lookup f.isPlain_toEntries rfl hv
    nofun
  categories := by
    intro items hitems
    obtain ⟨rfl⟩ := Value.array.inj (eq_of_lookup f.isPlain_toEntries rfl hitems)
    rw [List.forall_mem_map]
    exact fun c _ => isCategoryOut_ofCategory c

/-- **A registry file is read back from what is written**, provided that the exit codes fit the
type they are kept in. -/
theorem round_trip_law (f : RegistryFile)
    (h : ∀ c ∈ f.categories, ∀ t ∈ c.tool :: c.fixer.toList, ∀ n ∈ t.needsFormatCode,
      -2147483648 ≤ n ∧ n ≤ 2147483647) :
    RegistryFile.ofEntries f.toEntries = .ok f := by
  refine (RegistryFile.ofEntries_eq_ok_iff f.isPlain_toEntries f.isWrittenOut_toEntries).mpr ?_
  refine RegistryFile.isWrittenIn_toEntries fun c hc => ⟨h c hc _ (List.mem_cons_self ..), ?_⟩
  exact fun t ht => h c hc t (List.mem_cons_of_mem _ (Option.mem_toList.mpr ht))

namespace Example

/-- A file with everything that may be left out set once and left out once. -/
def written : RegistryFile where
  blacklist := ["gen/a.js"]
  vcs := { program := "hg" }
  categories := [
    { key := "js", aliases := ["es"], roots := ["lib"], extensions := ["js"], noise := ["^note"],
      mode := .perFile,
      tool := { program := "fmt", environment := .ofList [("B", "2"), ("A", "1")],
                directory := some "{source_root}", capturesErrors := true,
                needsFormatCode := some (-2147483648) },
      fixer := some { program := "fix" } },
    { key := "py", roots := [], extensions := [], tool := { program := "" } }]

/-- With the smallest code that fits, and with a tool that has no code. -/
theorem round_trip_law_written :
    RegistryFile.ofEntries written.toEntries = .ok written ∧
      written.categories.map (·.tool.needsFormatCode) = [some (-2147483648), none] := by
  refine ⟨round_trip_law written ?_, rfl⟩
  simp [written]

end Example

end LintRun

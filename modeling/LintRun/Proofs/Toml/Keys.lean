import LintRun.Proofs.Text.Reader
import LintRun.Proofs.Toml.Value
import LintRun.Toml.Document

/-!
# Documents have no key twice

`parse` refuses a text that defines a key twice, so whatever it gives has each key once, in every
table at any depth (`keysOnce_parse`).  That the tables which grow as statements are carried out
have no key twice is kept by every way to change them (`once_put`, `once_atHeader`,
`once_insertDotted`), and so by a statement (`once_step`) and by a run of them.

Without date-times such a document is plain (`isPlain_of_parse`).

The invariant is about the tree of tables that grows, and it is needed at every depth: a
statement changes one table far down, and all tables above it are put back with the one that
was changed.  So each change is of one of two kinds, to put an item at a key, which leaves the
keys of the table as they are or adds a new one at the end, and to change a table in place.
The recursion of `atHeader` and of `insertDotted` goes down the path and puts together what
comes up, and so do the two inductions.

Statements come from readers, whose values have no key twice either; an inline table is read as
a row of dotted keys and built in the same way (`keysOnce_inlineTable`), which is why the
readers of values have it as a parameter.
-/

namespace LintRun.Toml

open Reader (Yields yields_bind yields_failure yields_pure)

/-! ## 1. Values

To be plain is to have no key twice and no date-time; a document can be told to have the first
by being read, and the second must be asked for. -/

namespace Value

/-- **No key stands twice** in a table, at any depth. -/
inductive KeysOnce : Value → Prop
  | string (s : String) : KeysOnce (.string s)
  | integer (n : Int) : KeysOnce (.integer n)
  | float (x : Binary64) : KeysOnce (.float x)
  | boolean (b : Bool) : KeysOnce (.boolean b)
  | moment (s : String) : KeysOnce (.moment s)
  | array {items : List Value} (h : ∀ v ∈ items, KeysOnce v) : KeysOnce (.array items)
  | table {es : Entries} (hkeys : es.keys.Nodup) (h : ∀ e ∈ es, KeysOnce e.2) :
      KeysOnce (.table es)

/-- There are no date-times, at any depth. -/
inductive Undated : Value → Prop
  | string (s : String) : Undated (.string s)
  | integer (n : Int) : Undated (.integer n)
  | float (x : Binary64) : Undated (.float x)
  | boolean (b : Bool) : Undated (.boolean b)
  | array {items : List Value} (h : ∀ v ∈ items, Undated v) : Undated (.array items)
  | table {es : Entries} (h : ∀ e ∈ es, Undated e.2) : Undated (.table es)

/-- Plain values are those without repeated keys and without date-times. -/
theorem KeysOnce.isPlain {v : Value} (h : v.KeysOnce) (hundated : v.Undated) : v.IsPlain := by
  induction h with
  | string s => exact .string s
  | integer n => exact .integer n
  | float x => exact .float x
  | boolean b => exact .boolean b
  | moment s => cases hundated
  | array _ ih =>
    cases hundated with
    | array hundated => exact .array fun v hv => ih v hv (hundated v hv)
  | table hkeys _ ih =>
    cases hundated with
    | table hundated => exact .table hkeys fun e he => ih e he (hundated e he)

end Value

/-! ## 2. Growing tables

A table in the tree is kept with where it came from, which decides what may be added to it and
has nothing to do with its keys. -/

/-- A node of the growing tree in which no table has a key twice. -/
inductive Item.KeysOnce : Item → Prop
  | value {v : Value} (h : v.KeysOnce) : KeysOnce (.value v)
  | table {origin : Origin} {items : Items} (hkeys : (items.map Prod.fst).Nodup)
      (h : ∀ e ∈ items, KeysOnce e.2) : KeysOnce (.table origin items)
  | tables {closed : List Items} {current : Items}
      (hkeys : ∀ t ∈ closed ++ [current], (t.map Prod.fst).Nodup)
      (h : ∀ t ∈ closed ++ [current], ∀ e ∈ t, KeysOnce e.2) : KeysOnce (.tables closed current)

/-- A growing table has no key twice. -/
structure Items.Once (items : Items) : Prop where
  keys : (items.map Prod.fst).Nodup
  items : ∀ e ∈ items, e.2.KeysOnce

section Items

variable {items items' inner inner' current : Items} {closed : List Items} {k : String} {i : Item}
  {origin : Origin} {v : Value}

theorem keysOnce_table_iff : (Item.table origin inner).KeysOnce ↔ Items.Once inner := by
  constructor
  · intro h
    cases h with
    | table hkeys h => exact ⟨hkeys, h⟩
  · rintro ⟨hkeys, h⟩
    exact .table hkeys h

theorem keysOnce_tables_iff :
    (Item.tables closed current).KeysOnce ↔ ∀ t ∈ closed ++ [current], Items.Once t := by
  constructor
  · intro h
    cases h with
    | tables hkeys h => exact fun t ht => ⟨hkeys t ht, h t ht⟩
  · intro h
    exact .tables (fun t ht => (h t ht).keys) fun t ht => (h t ht).items

theorem once_nil : Items.Once [] := ⟨List.nodup_nil, nofun⟩

theorem Items.Once.of_lookup (h : Items.Once items) (hi : items.lookup k = some i) :
    i.KeysOnce := h.items _ (mem_of_lookup_eq hi)

/-- A key that is new is put last. -/
theorem Items.Once.concat (h : Items.Once items) (hnone : items.lookup k = none)
    (hi : i.KeysOnce) : Items.Once (items ++ [(k, i)]) where
  keys := by
    rw [List.map_append, List.map_singleton, List.nodup_append]
    refine ⟨h.keys, List.nodup_singleton k, ?_⟩
    rintro a ha b hb rfl
    rw [List.mem_singleton] at hb
    subst hb
    exact lookup_eq_none_iff_not_mem.mp hnone ha
  items := by
    rw [List.forall_mem_append, List.forall_mem_singleton]
    exact ⟨h.items, hi⟩

/-- To set what stands at a key changes no keys. -/
theorem keys_set : (Items.set k i items).map Prod.fst = items.map Prod.fst := by
  induction items with
  | nil => rfl
  | cons e items ih =>
    rw [Items.set]
    split
    · rfl
    · exact congrArg (e.1 :: ·) ih

theorem eq_or_mem_of_mem_set {e : String × Item} (he : e ∈ Items.set k i items) :
    e.2 = i ∨ e ∈ items := by
  induction items with
  | nil => exact .inr he
  | cons e' items ih =>
    rw [Items.set] at he
    split at he
    · rcases List.mem_cons.mp he with rfl | he
      · exact .inl rfl
      · exact .inr (List.mem_cons_of_mem _ he)
    · rcases List.mem_cons.mp he with rfl | he
      · exact .inr (List.mem_cons_self ..)
      · exact (ih he).imp_right (List.mem_cons_of_mem _)

/-- **Putting an item at a key** keeps keys apart. -/
theorem once_put (h : Items.Once items) (hi : i.KeysOnce) : Items.Once (items.put k i) := by
  unfold Items.put
  split
  · refine ⟨keys_set.symm ▸ h.keys, fun e he => ?_⟩
    rcases eq_or_mem_of_mem_set he with rfl | he
    · exact hi
    · exact h.items e he
  · rename_i hnone
    exact h.concat (Option.not_isSome_iff_eq_none.mp hnone) hi

/-- A table that is reached is changed in place. -/
theorem Items.Once.put_table (h : Items.Once items)
    (hlookup : items.lookup k = some (.table origin inner))
    (hinner : Items.Once inner → Items.Once inner') :
    Items.Once (items.put k (.table origin inner')) :=
  once_put h (keysOnce_table_iff.mpr (hinner (keysOnce_table_iff.mp (h.of_lookup hlookup))))

/-- Of an array of tables the last is changed in place. -/
theorem Items.Once.put_tables (h : Items.Once items)
    (hlookup : items.lookup k = some (.tables closed current))
    (hcurrent : Items.Once current → Items.Once inner) :
    Items.Once (items.put k (.tables closed inner)) := by
  have htables := keysOnce_tables_iff.mp (h.of_lookup hlookup)
  rw [List.forall_mem_append, List.forall_mem_singleton] at htables
  refine once_put h (keysOnce_tables_iff.mpr ?_)
  rw [List.forall_mem_append, List.forall_mem_singleton]
  exact ⟨htables.1, hcurrent htables.2⟩

/-- **A change below a header** keeps keys apart, if the change does. -/
theorem once_atHeader {change : Items → Option Items}
    (hchange : ∀ items items', Items.Once items → change items = some items' → Items.Once items')
    {path : List String} (h : Items.Once items) (hread : atHeader change path items = some items') :
    Items.Once items' := by
  induction path generalizing items items' with
  | nil => exact hchange _ _ h hread
  | cons k ks ih =>
    simp only [atHeader] at hread
    split at hread
    · obtain ⟨inner, hinner, hput⟩ := Option.bind_eq_some_iff.mp hread
      cases hput
      exact once_put h (keysOnce_table_iff.mpr (ih once_nil hinner))
    · rename_i hlookup
      obtain ⟨inner, hinner, hput⟩ := Option.bind_eq_some_iff.mp hread
      cases hput
      exact h.put_table hlookup fun hbefore => ih hbefore hinner
    · rename_i hlookup
      obtain ⟨current, hcurrent, hput⟩ := Option.bind_eq_some_iff.mp hread
      cases hput
      exact h.put_tables hlookup fun hbefore => ih hbefore hcurrent
    · cases hread

/-- **A value at a dotted key** keeps keys apart. -/
theorem once_insertDotted (hv : v.KeysOnce) {path : List String} (h : Items.Once items)
    (hread : insertDotted v path items = some items') : Items.Once items' := by
  induction path generalizing items items' with
  | nil => cases hread
  | cons k ks ih =>
    cases ks with
    | nil =>
      simp only [insertDotted] at hread
      split at hread
      · cases hread
      · rename_i hnone
        cases hread
        exact h.concat (Option.not_isSome_iff_eq_none.mp hnone) (.value hv)
    | cons k' ks =>
      simp only [insertDotted] at hread
      split at hread
      · obtain ⟨inner, hinner, hput⟩ := Option.bind_eq_some_iff.mp hread
        cases hput
        exact once_put h (keysOnce_table_iff.mpr (ih once_nil hinner))
      · rename_i hlookup
        obtain ⟨inner, hinner, hput⟩ := Option.bind_eq_some_iff.mp hread
        cases hput
        exact h.put_table hlookup fun hbefore => ih hbefore hinner
      · rename_i hlookup _
        obtain ⟨inner, hinner, hput⟩ := Option.bind_eq_some_iff.mp hread
        cases hput
        exact h.put_table hlookup fun hbefore => ih hbefore hinner
      · rename_i hlookup _
        obtain ⟨current, hcurrent, hput⟩ := Option.bind_eq_some_iff.mp hread
        cases hput
        exact h.put_tables hlookup fun hbefore => ih hbefore hcurrent
      · cases hread

/-- **A header** makes a table, or takes one that was there already. -/
theorem once_openTable (h : Items.Once items) (hread : openTable k items = some items') :
    Items.Once items' := by
  unfold openTable at hread
  split at hread
  · rename_i hnone
    cases hread
    exact h.concat hnone (keysOnce_table_iff.mpr once_nil)
  · rename_i inner hlookup
    cases hread
    have hrest : Items.Once (items.filter (·.1 != k)) :=
      ⟨h.keys.sublist (List.filter_sublist.map Prod.fst),
        fun e he => h.items e (List.mem_of_mem_filter he)⟩
    refine hrest.concat (lookup_eq_none_iff_not_mem.mpr ?_) (keysOnce_table_iff.mpr ?_)
    · simp
    · exact keysOnce_table_iff.mp (h.of_lookup hlookup)
  · cases hread

/-- **A header of one more table** makes an array of tables, or one more at its end. -/
theorem once_openItem (h : Items.Once items) (hread : openItem k items = some items') :
    Items.Once items' := by
  unfold openItem at hread
  split at hread
  · rename_i hnone
    cases hread
    exact h.concat hnone (keysOnce_tables_iff.mpr (List.forall_mem_singleton.mpr once_nil))
  · rename_i closed current hlookup
    cases hread
    refine once_put h (keysOnce_tables_iff.mpr ?_)
    rw [List.forall_mem_append, List.forall_mem_singleton]
    exact ⟨keysOnce_tables_iff.mp (h.of_lookup hlookup), once_nil⟩
  · cases hread

end Items

/-! ## 3. Finished tables

To finish a tree is to forget where its tables came from. -/

theorem finishItems_eq_map (items : Items) :
    finishItems items = items.map fun e => (e.1, e.2.toValue) := by
  induction items with
  | nil => rfl
  | cons e items ih => rw [finishItems, ih, List.map_cons]

theorem finishTables_eq_map (tables : List Items) :
    finishTables tables = tables.map fun t => .table (finishItems t) := by
  induction tables with
  | nil => rfl
  | cons t tables ih => rw [finishTables, ih, List.map_cons]

/-- A table is finished as its items are. -/
theorem keysOnce_finishItems {items : Items} (hkeys : (items.map Prod.fst).Nodup)
    (h : ∀ e ∈ items, e.2.toValue.KeysOnce) : (Value.table (finishItems items)).KeysOnce := by
  rw [finishItems_eq_map]
  refine .table ?_ ?_
  · rw [Entries.keys, List.map_map]
    exact hkeys
  · rw [List.forall_mem_map]
    exact h

/-- By induction on the node, over the items of its tables. -/
theorem Item.KeysOnce.toValue {i : Item} (h : i.KeysOnce) : i.toValue.KeysOnce := by
  induction h with
  | value h => exact h
  | table hkeys _ ih => exact keysOnce_finishItems hkeys ih
  | @tables closed current hkeys _ ih =>
    rw [Item.toValue, finishTables_eq_map]
    refine .array ?_
    have hall : ∀ t ∈ closed ++ [current], (Value.table (finishItems t)).KeysOnce :=
      fun t ht => keysOnce_finishItems (hkeys t ht) (ih t ht)
    rw [List.forall_mem_append, List.forall_mem_singleton] at hall
    rw [List.forall_mem_append, List.forall_mem_map, List.forall_mem_singleton]
    exact hall

theorem Items.Once.finish {items : Items} (h : Items.Once items) :
    (Value.table (finishItems items)).KeysOnce :=
  keysOnce_finishItems h.keys fun e he => (h.items e he).toValue

/-- What is kept by each of some changes is kept by all of them. -/
theorem foldlM_invariant {α β : Type} {P : β → Prop} {Q : α → Prop} {f : β → α → Option β}
    (hstep : ∀ b a b', P b → Q a → f b a = some b' → P b') {as : List α} (has : ∀ a ∈ as, Q a)
    {b b' : β} (hb : P b) (hread : as.foldlM f b = some b') : P b' := by
  induction as generalizing b with
  | nil =>
    cases hread
    exact hb
  | cons a as ih =>
    obtain ⟨ha, has⟩ := List.forall_mem_cons.mp has
    rw [List.foldlM_cons] at hread
    obtain ⟨c, hc, hread⟩ := Option.bind_eq_some_iff.mp hread
    exact ih has (hstep b a c hb ha hc) hread

/-- **An inline table** has no key twice. -/
theorem keysOnce_inlineTable {entries : DottedEntries} (h : ∀ e ∈ entries, e.2.KeysOnce)
    {es : Entries} (hread : inlineTable entries = some es) : (Value.table es).KeysOnce := by
  obtain ⟨items, hitems, hfinish⟩ := Option.bind_eq_some_iff.mp hread
  cases hfinish
  exact (foldlM_invariant (fun _ _ _ hb ha => once_insertDotted ha hb) h once_nil hitems).finish

/-! ## 4. Documents

Readers first, then statements, then the run of them. -/

/-- The value of an entry has no key twice. -/
def Statement.KeysOnce (s : Statement) : Prop := ∀ path v, s = .entry path v → v.KeysOnce

/-- **A statement** keeps keys apart. -/
theorem once_step {b b' : Builder} {s : Statement} (h : Items.Once b.root) (hs : s.KeysOnce)
    (hread : b.step s = some b') : Items.Once b'.root := by
  cases s with
  | header path =>
    obtain ⟨key, -, hread⟩ := Option.bind_eq_some_iff.mp hread
    obtain ⟨root, hroot, hb⟩ := Option.bind_eq_some_iff.mp hread
    cases hb
    exact once_atHeader (fun _ _ => once_openTable) h hroot
  | itemHeader path =>
    obtain ⟨key, -, hread⟩ := Option.bind_eq_some_iff.mp hread
    obtain ⟨root, hroot, hb⟩ := Option.bind_eq_some_iff.mp hread
    cases hb
    exact once_atHeader (fun _ _ => once_openItem) h hroot
  | entry path v =>
    obtain ⟨root, hroot, hb⟩ := Option.bind_eq_some_iff.mp hread
    cases hb
    exact once_atHeader (fun _ _ => once_insertDotted (hs path v rfl)) h hroot

theorem yields_integerOf (n : Int) : Yields Value.KeysOnce (integerOf n) := by
  unfold integerOf
  split
  · exact yields_pure (.integer n)
  · exact yields_failure

theorem yields_basedInteger (mark : String) (base : Nat) :
    Yields Value.KeysOnce (basedInteger mark base) :=
  yields_bind fun _ => yields_bind fun _ => yields_integerOf _

theorem yields_integer : Yields Value.KeysOnce integer :=
  ((yields_basedInteger _ _).orElse ((yields_basedInteger _ _).orElse
    ((yields_basedInteger _ _).orElse
      (yields_bind fun _ => yields_bind fun _ => yields_integerOf _))))

theorem yields_plainFloat : Yields Value.KeysOnce plainFloat := by
  have hfinite (x : Binary64) : Yields Value.KeysOnce
      (if x = .infinite false then failure else pure (.float x)) := by
    split
    · exact yields_failure
    · exact yields_pure (.float x)
  unfold plainFloat
  refine yields_bind fun _ => yields_bind fun _ => yields_bind fun _ => yields_bind fun _ => ?_
  dsimp only
  split
  · exact yields_bind fun _ => hfinite _
  · exact hfinite _

/-- A scalar has no keys. -/
theorem yields_scalar : Yields Value.KeysOnce scalar := by
  have hstring : Yields Value.KeysOnce (do pure (.string (← string))) :=
    yields_bind fun s => yields_pure (.string s)
  have hboolean : Yields Value.KeysOnce boolean :=
    Reader.Yields.orElse (yields_bind fun _ => yields_pure (.boolean true))
      (yields_bind fun _ => yields_pure (.boolean false))
  have hmoment : Yields Value.KeysOnce moment := yields_bind fun s => yields_pure (.moment s)
  have hnamed : Yields Value.KeysOnce namedFloat :=
    yields_bind fun _ => Reader.Yields.orElse (yields_bind fun _ => yields_pure (.float _))
      (yields_bind fun _ => yields_pure (.float _))
  exact hstring.orElse (hboolean.orElse (hmoment.orElse (yields_plainFloat.orElse
    (hnamed.orElse yields_integer))))

/-- **A value that is read** has no key twice. -/
theorem yields_value (depth : Nat) : Yields Value.KeysOnce (value inlineTable depth) := by
  induction depth with
  | zero => exact yields_scalar
  | succ depth ih =>
    unfold value
    refine yields_bind fun c => ?_
    split
    · have hitem : Yields Value.KeysOnce (do gap; let v ← value inlineTable depth; gap; pure v) :=
        yields_bind fun _ => ih.bind fun v hv => yields_bind fun _ => yields_pure hv
      refine yields_bind fun _ => hitem.sepBy.bind fun items hitems => ?_
      have harray : Yields Value.KeysOnce (do gap; Reader.char ']'; pure (.array items)) :=
        yields_bind fun _ => yields_bind fun _ => yields_pure (.array hitems)
      dsimp only
      split
      · exact yields_bind fun _ => harray
      · exact harray
    · have hentry : Yields (fun e : List String × Value => e.2.KeysOnce)
          (inlineEntry (value inlineTable depth)) :=
        yields_bind fun _ => yields_bind fun _ => yields_bind fun _ => ih.bind fun v hv =>
          yields_bind fun _ => yields_pure hv
      refine yields_bind fun _ => yields_bind fun _ => hentry.sepBy.bind fun entries hentries =>
        yields_bind fun _ => ?_
      split
      · rename_i es hes
        exact yields_pure (keysOnce_inlineTable hentries hes)
      · exact yields_failure
    · exact yields_scalar

/-- Every statement that is read has a value without a key twice, if it has one. -/
theorem yields_statements :
    Yields (fun list => ∀ s ∈ list, s.KeysOnce) (statements inlineTable) := by
  have hstatement : Yields Statement.KeysOnce (statement inlineTable) := by
    refine Reader.Yields.orElse ?_ (Reader.Yields.orElse ?_ ?_)
    · exact yields_bind fun _ => yields_bind fun _ => yields_bind fun _ => yields_bind fun _ =>
        yields_pure nofun
    · exact yields_bind fun _ => yields_bind fun _ => yields_bind fun _ => yields_bind fun _ =>
        yields_pure nofun
    · refine yields_bind fun _ => yields_bind fun _ => yields_bind fun _ =>
        (yields_value _).bind fun v hv => yields_bind fun _ => yields_pure ?_
      rintro _ _ ⟨⟩
      exact hv
  have hline : Yields (fun line : Option Statement => ∀ s ∈ line, s.KeysOnce) (do
      spaces
      (do emptyLine; pure none) <|> (do pure (some (← statement inlineTable)))) := by
    refine yields_bind fun _ => Reader.Yields.orElse (yields_bind fun _ => yields_pure nofun) ?_
    refine hstatement.bind fun s hs => yields_pure ?_
    rintro _ ⟨⟩
    exact hs
  refine yields_bind fun _ => hline.many.bind fun lines hlines => yields_pure ?_
  intro s hs
  obtain ⟨line, hline, hsome⟩ := List.mem_filterMap.mp hs
  exact hlines line hline s hsome

/-- **A document has no key twice.** -/
theorem keysOnce_parse {text : String} {es : Entries} (h : parse text = some es) :
    (Value.table es).KeysOnce := by
  obtain ⟨list, hlist, h⟩ := Option.bind_eq_some_iff.mp h
  obtain ⟨b, hb, hfinish⟩ := Option.bind_eq_some_iff.mp h
  cases hfinish
  have hstatements := yields_statements _ _ _ (Reader.run_eq_some_iff.mp hlist)
  have honce : Items.Once b.root := foldlM_invariant (P := fun b : Builder => Items.Once b.root)
    (fun _ _ _ => once_step) hstatements once_nil hb
  exact honce.finish

/-- **A document without date-times is plain.** -/
theorem isPlain_of_parse {text : String} {es : Entries} (h : parse text = some es)
    (hundated : (Value.table es).Undated) : (Value.table es).IsPlain :=
  (keysOnce_parse h).isPlain hundated

end LintRun.Toml

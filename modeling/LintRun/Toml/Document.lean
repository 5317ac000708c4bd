import LintRun.Toml.Statement

/-!
# Building the tables of a TOML document

Statements are carried out in order on a growing tree of tables.  A table may be defined
once, by its header or by dotted keys, and values may not be extended:

* a header reaches its table through any tables, and through the last table of an array;
* it may define a table that so far was only implied by longer headers, which then counts
  as written here;
* dotted keys reach through tables made by dotted keys of the same table only.
-/

namespace LintRun.Toml

/-! ## 1. The growing tree -/

/-- How a table came to be. -/
inductive Origin
  | defined
  | implied
  | dotted
  deriving DecidableEq

/-- A node of the growing tree: a finished value, an open table, or an array of tables with
the open one last. -/
inductive Item
  | value (v : Value)
  | table (origin : Origin) (items : List (String × Item))
  | tables (closed : List (List (String × Item))) (current : List (String × Item))
  deriving Inhabited

/-- The keys of an open table, in document order. -/
abbrev Items := List (String × Item)

/-- Replaces the item of a key that is present. -/
def Items.set (key : String) (i : Item) : Items → Items
  | [] => []
  | (k, j) :: rest => if k = key then (k, i) :: rest else (k, j) :: Items.set key i rest

/-- Puts an item at a key: in place, or last. -/
def Items.put (items : Items) (key : String) (i : Item) : Items :=
  if (items.lookup key).isSome then items.set key i else items ++ [(key, i)]

/-! ## 2. Reaching a table -/

/-- Changes the table that a header path leads to, making implied tables on the way. -/
def atHeader (change : Items → Option Items) : List String → Items → Option Items
  | [], items => change items
  | k :: ks, items => do
    match items.lookup k with
    | none => return items.put k (.table .implied (← atHeader change ks []))
    | some (.table origin inner) => return items.put k (.table origin (← atHeader change ks inner))
    | some (.tables closed current) =>
      return items.put k (.tables closed (← atHeader change ks current))
    | some (.value _) => none

/-- Puts a value at a dotted key of an open table.  The table that gets the value is the open
one itself or one made by dotted keys. -/
def insertDotted (v : Value) : List String → Items → Option Items
  | [], _ => none
  | [k], items => if (items.lookup k).isSome then none else some (items ++ [(k, .value v)])
  | k :: ks, items => do
    match items.lookup k, ks with
    | none, _ => return items.put k (.table .dotted (← insertDotted v ks []))
    | some (.table .dotted inner), _ =>
      return items.put k (.table .dotted (← insertDotted v ks inner))
    | some (.table .implied inner), _ :: _ :: _ =>
      return items.put k (.table .implied (← insertDotted v ks inner))
    | some (.tables closed current), _ :: _ :: _ =>
      return items.put k (.tables closed (← insertDotted v ks current))
    | some _, _ => none

/-- Opens the table of a header below its parent. -/
def openTable (key : String) (items : Items) : Option Items :=
  match items.lookup key with
  | none => some (items ++ [(key, .table .defined [])])
  | some (.table .implied inner) =>
    some (items.filter (·.1 != key) ++ [(key, .table .defined inner)])
  | some _ => none

/-- Opens one more table of an array below its parent. -/
def openItem (key : String) (items : Items) : Option Items :=
  match items.lookup key with
  | none => some (items ++ [(key, .tables [] [])])
  | some (.tables closed current) => some (items.put key (.tables (closed ++ [current]) []))
  | some _ => none

/-! ## 3. Carrying out statements -/

/-- The tree so far and the path of the table that entries go to. -/
structure Builder where
  root : Items := []
  current : List String := []

/-- Carries out one statement. -/
def Builder.step (b : Builder) : Statement → Option Builder
  | .header path => do
    let key ← path.getLast?
    return { root := ← atHeader (openTable key) path.dropLast b.root, current := path }
  | .itemHeader path => do
    let key ← path.getLast?
    return { root := ← atHeader (openItem key) path.dropLast b.root, current := path }
  | .entry path v => do
    return { b with root := ← atHeader (insertDotted v path) b.current b.root }

mutual

/-- The finished value of a node. -/
def Item.toValue : Item → Value
  | .value v => v
  | .table _ items => .table (finishItems items)
  | .tables closed current => .array (finishTables closed ++ [.table (finishItems current)])

/-- The finished entries of a table. -/
def finishItems : List (String × Item) → Entries
  | [] => []
  | (k, i) :: rest => (k, i.toValue) :: finishItems rest

/-- The finished tables of an array. -/
def finishTables : List (List (String × Item)) → List Value
  | [] => []
  | t :: rest => .table (finishItems t) :: finishTables rest

end

/-- The entries of an inline table. -/
def inlineTable (entries : DottedEntries) : Option Entries := do
  let items ← entries.foldlM (fun items (path, v) => insertDotted v path items) ([] : Items)
  return finishItems items

/-- The top-level table of a TOML text, if it is one. -/
def parse (text : String) : Option Entries := do
  let list ← (statements inlineTable).run text.toList
  let b ← list.foldlM Builder.step {}
  return finishItems b.root

end LintRun.Toml

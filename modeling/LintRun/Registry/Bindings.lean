import LintRun.Order.Ascending

/-!
# Variables and their values

Environment settings by variable name, in ascending order of the names.

Models the ordered map in which a tool definition keeps its environment.
-/

namespace LintRun

/-- Values of variables, each variable once. -/
abbrev Bindings := Ascending (Prod.fst : String × String → String)

namespace Bindings

/-- The value of a variable. -/
def get? (b : Bindings) (name : String) : Option String := (b.find? name).map (·.2)

/-- The same variables with changed values. -/
def mapValues (f : String → String) (b : Bindings) : Bindings where
  toList := b.toList.map fun (name, value) => (name, f value)
  ascending := List.pairwise_map.mpr b.ascending

end Bindings

end LintRun

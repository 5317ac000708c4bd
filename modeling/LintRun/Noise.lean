import LintRun.Pattern.Grammar
import LintRun.Pattern.Search
import LintRun.Text.Pieces

/-!
# Noise in the output of tools

Some tools report progress next to findings.  A category has patterns for such lines; the
lines that match none of them are the signal.

Models `NoiseFilter` with its `none`, `from_patterns`, `is_noise`, `signal_lines` and `is_empty`.
-/

namespace LintRun

/-- The patterns of lines that are not shown. -/
structure Noise where
  patterns : List Pattern := []
  deriving Inhabited

namespace Noise

/-- Nothing is noise. -/
def none : Noise := {}

/-- Whether nothing is noise. -/
def isEmpty (n : Noise) : Bool := n.patterns.isEmpty

/-- The noise that patterns describe, or the first text that writes no pattern, with its fault. -/
def ofTexts : List String → Except (String × Pattern.Fault) Noise
  | [] => .ok {}
  | t :: ts =>
    match Pattern.parse t with
    | .error fault => .error (t, fault)
    | .ok p => (ofTexts ts).map fun n => ⟨p :: n.patterns⟩

/-- Whether a line matches some pattern. -/
def hides (n : Noise) (line : String) : Bool := n.patterns.any fun p => p.occursIn line

/-- The non-empty lines of a text that match no pattern. -/
def signal (n : Noise) (text : String) : List String :=
  (textLines text).filter fun line => !n.hides line

end Noise

end LintRun

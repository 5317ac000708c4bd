import LintRun.Machine.Utility.Deciding
import LintRun.Machine.Utility.Listing
import LintRun.Machine.Utility.Naming
import LintRun.Machine.Utility.Sorting
import LintRun.Machine.Utility.Starting
import LintRun.Machine.Utility.Translating
import LintRun.Machine.Utility.Viewing
import LintRun.Machine.Utility.Writing

/-!
# The utilities by name
-/

namespace LintRun.Utility

/-- The utilities that do their work alone. -/
def table : List (String × Utility) := [
  ("[", bracket),
  ("basename", basename),
  ("cat", cat),
  ("chmod", chmod),
  ("comm", comm),
  ("cp", cp),
  ("cut", cut),
  ("date", date),
  ("dirname", dirname),
  ("echo", echo),
  ("expand", expand),
  ("expr", expr),
  ("false", noAlways),
  ("fold", fold),
  ("head", head),
  ("install", install),
  ("join", join),
  ("link", link),
  ("ln", ln),
  ("ls", ls),
  ("mkdir", mkdir),
  ("mktemp", mktemp),
  ("mv", mv),
  ("nl", nl),
  ("paste", paste),
  ("printenv", printenv),
  ("printf", printf),
  ("pwd", pwd),
  ("readlink", readlink),
  ("realpath", realpath),
  ("rev", rev),
  ("rm", rm),
  ("rmdir", rmdir),
  ("seq", seq),
  ("shuf", shuf),
  ("sleep", sleep),
  ("sort", sort),
  ("stat", stat),
  ("tac", tac),
  ("tail", tail),
  ("tee", tee),
  ("test", test),
  ("touch", touch),
  ("tr", tr),
  ("true", yesAlways),
  ("truncate", truncate),
  ("unexpand", unexpand),
  ("uniq", uniq),
  ("unlink", unlink),
  ("wc", wc),
  ("yes", yes)]

/-- The utilities that start others. -/
def starters : List (String × (Launch → Utility)) := [
  ("env", env),
  ("nice", nice),
  ("nohup", nohup),
  ("timeout", timeout),
  ("xargs", xargs)]

end LintRun.Utility

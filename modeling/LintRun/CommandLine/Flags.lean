import LintRun.Path.Basic

/-!
# Flags of the command line

Switches stand for themselves, settings take a value.  Each has one long name or several, and
some switches have a short one.

Models the flags that `Cli` declares, with their aliases.
-/

namespace LintRun

/-- What is on when it is given. -/
inductive Switch
  | cc
  | js
  | py
  | gn
  | changed
  | fix
  | verbose
  | list
  | debug
  deriving DecidableEq, Inhabited

/-- What takes a value. -/
inductive Setting
  | only
  | root
  | config
  | format
  deriving DecidableEq, Inhabited

/-- What a name on the command line means. -/
inductive Flag
  | switch (s : Switch)
  | setting (s : Setting)
  | help
  | version
  deriving DecidableEq, Inhabited

namespace Flag

/-- The long names. -/
def longNames : List (String × Flag) := [
  ("cc", .switch .cc),
  ("cpp", .switch .cc),
  ("cxx", .switch .cc),
  ("js", .switch .js),
  ("javascript", .switch .js),
  ("es", .switch .js),
  ("py", .switch .py),
  ("python", .switch .py),
  ("gn", .switch .gn),
  ("only", .setting .only),
  ("changed", .switch .changed),
  ("fix", .switch .fix),
  ("verbose", .switch .verbose),
  ("root", .setting .root),
  ("config", .setting .config),
  ("list", .switch .list),
  ("format", .setting .format),
  ("debug", .switch .debug),
  ("help", .help),
  ("version", .version)]

/-- The short names. -/
def shortNames : List (Char × Flag) := [
  ('c', .switch .changed),
  ('v', .switch .verbose),
  ('h', .help),
  ('V', .version)]

/-- The flag with a long name; names are not shortened, and case counts. -/
def ofLong? (name : List UInt8) : Option Flag :=
  (longNames.find? fun entry => Utf8.encode entry.1 = name).map (·.2)

/-- The flag with a short name. -/
def ofShort? (b : UInt8) : Option Flag :=
  (shortNames.find? fun entry => entry.1.toNat = b.toNat).map (·.2)

end Flag

end LintRun

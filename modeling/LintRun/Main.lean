import LintRun.CommandLine.Program
import LintRun.Machine.Manifest

/-!
# The command

Standard input holds the manifest of a machine; the program runs on it with the arguments of
the command, and its output and exit code become those of the command.

The command is for trying the program on a manifest; the program itself has no such input.
-/

open LintRun in
def main (args : List String) : IO UInt32 := do
  let manifest ← (← IO.getStdin).readToEnd
  let d := Program.runOn (.ofManifest manifest) (args.map Utf8.encode)
  (← IO.getStdout).write ⟨d.streams.out.toArray⟩
  (← IO.getStderr).write ⟨d.streams.err.toArray⟩
  return d.code.toUInt32

import Messaging.Demo

/-!
# The demonstration program

Reads its settings from the variables with which the process was started, runs the demonstration,
and prints its lines to the standard error.
-/

/-- Runs the demonstration. -/
def main : IO UInt32 := do
  let block ← IO.FS.readBinFile "/proc/self/environ"
  match Messaging.Demo.runProcess (.ofBlock block.toList) with
  | .ok report =>
    for line in report.lines do
      IO.eprintln line
    return report.code.toUInt32
  | .abort lines message =>
    for line in lines do
      IO.eprintln line
    IO.eprintln message
    return 101

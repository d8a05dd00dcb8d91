import Wiring.CommandLine.Run

/-!
The program: reads the topology file of a command and writes its report. It does not
log.
-/

namespace Wiring.CommandLine

def readFile? (path : String) : IO (Option ByteArray) := do
  try return some (← IO.FS.readBinFile path)
  catch _ => return none

def report (arguments : List String) : IO Report := do
  match parse arguments with
  | .error stop => return stop.report
  | .ok command => return command.run (← readFile? command.path)

end Wiring.CommandLine

def main (arguments : List String) : IO UInt32 := do
  let report ← Wiring.CommandLine.report arguments
  (← IO.getStdout).putStr (report.stdout Wiring.CommandLine.unlogged)
  (← IO.getStderr).putStr report.error
  return report.exitCode.toUInt32

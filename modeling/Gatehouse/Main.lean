import Gatehouse.CommandLine

/-!
# The program

Reads the settings file that the command line names, and writes the report.
-/

namespace Gatehouse

/-- The bytes of a file, if it exists. -/
def readFile? (file : String) : IO (Option (List UInt8)) := do
  try
    return some (← IO.FS.readBinFile file).toList
  catch
    | .noFileOrDirectory .. => return none
    | cause => throw cause

end Gatehouse

def main (words : List String) : IO UInt32 := do
  match Gatehouse.Command.parse words with
  | .error cause =>
    IO.eprintln cause.message
    return 2
  | .ok .help =>
    IO.println Gatehouse.usage
    return 0
  | .ok .version =>
    IO.println Gatehouse.versionText
    return 0
  | .ok (.inspect file) =>
    match Gatehouse.inspectFile file (← Gatehouse.readFile? file) with
    | .error text =>
      IO.eprintln text
      return 1
    | .ok lines =>
      lines.forM fun line => IO.println line
      return 0

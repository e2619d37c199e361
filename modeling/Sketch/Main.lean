import Sketch.CommandLine

/-! The program: reads the script from the file system and prints what the command line reports. -/
namespace Sketch

def readScript (path : String) : IO (Except LoadError String) := do
  try
    let content ← IO.FS.readBinFile path
    return decodeScript content
  catch error =>
    return .error <| .file <| match error with
      | .inappropriateType _ 21 _ => .isDirectory
      | .inappropriateType .. => .notADirectory
      | _ => .notFound

def usageText : String :=
  "usage: sketch run SCRIPT [--headless] [--strict-endif] [-v]\n       sketch check SCRIPT [--all]\n"

def crashText : CommandLine.Crash → String
  | .canvas fault => fault.message
  | .notText => "The script is not a text."
  | .tooDeep => "Calls are nested too deep."

def finish : CommandLine.Outcome → IO UInt32
  | .usage status => do
    if status = 0 then IO.print usageText else IO.eprint usageText
    return status.toUInt32
  | .crashed crash => do
    IO.eprintln (crashText crash)
    return 1
  | .finished report => do
    report.log.forM fun entry => IO.eprintln entry.message
    IO.print report.output
    IO.eprint report.complaints
    return report.status.toUInt32

end Sketch

open Sketch in
def main (args : List String) : IO UInt32 := do
  match Arguments.parse args with
  | .error usage => finish (.usage usage.status)
  | .ok invocation =>
    let loaded ← readScript (CommandLine.scriptPath invocation)
    finish (CommandLine.carryOut invocation loaded false)

import Xiangqi.Program

/-!
# The executable

Reads the files that the arguments name and the log filter that the environment sets, then lines from
standard input, each of which is answered before the next one is read. Errors are worded on standard
error.
-/

namespace Xiangqi.Main

/-- The contents of a file, if it can be read. -/
def fileContents? (path : String) : IO (Option ByteArray) := do
  try
    return some (← IO.FS.readBinFile path)
  catch _ =>
    return none

/-- Answer lines until the input or the console ends; the result is the exit code. -/
partial def converse (input output : IO.FS.Stream) (console : Console) : IO UInt32 := do
  let text ← input.getLine
  match (Text.lines text.toList).map String.ofList with
  | [] => return 0
  | line :: _ =>
    match console.respond line with
    | .error (.setup error) =>
      IO.eprintln error.message
      return 1
    | .error (.corrupt corruption) =>
      IO.eprintln corruption.message
      return 1
    | .ok reply =>
      output.putStr reply.text
      output.flush
      if reply.goesOn then converse input output reply.console else return 0

/-- Start a console with the files that the options name, under the environment's log filter. -/
def playWith (options : CommandLine.Options) : IO UInt32 := do
  let paths := options.settings.toList ++ options.placement.toList
  let contents ← paths.mapM fun path => do return (path, ← fileContents? path)
  let environment ← IO.getEnv "RUST_LOG"
  match Program.prepare (fun path => (contents.lookup path).join) environment options with
  | .error error =>
    IO.eprintln error.message
    return error.code.toUInt32
  | .ok console => converse (← IO.getStdin) (← IO.getStdout) console

end Xiangqi.Main

open Xiangqi

/-- The executable. -/
def main (arguments : List String) : IO UInt32 :=
  match CommandLine.read arguments with
  | .version => do
    IO.print CommandLine.versionText
    return 0
  | .help => do
    IO.print CommandLine.helpText
    return 0
  | .mistake => do
    IO.eprintln "usage: xiangqi [OPTIONS]"
    return 2
  | .play options => Main.playWith options

import Waymark.Cli.Run

/-! # The program -/

namespace Waymark.Cli

/-- The content of a file, if it can be read. -/
def readFile? (path : String) : IO (Option ByteArray) := do
  try
    pure (some (← IO.FS.readBinFile path))
  catch _ =>
    pure none

/-- Prints a report. -/
def Report.print (report : Report) : IO UInt32 := do
  IO.print report.stdout
  IO.eprint report.stderr
  pure report.exitCode

/-- Looks at a file every two seconds, and reloads a registry when the content has changed. -/
def watch (path : String) (registry : Registry) : IO UInt32 := do
  let mut registry := registry
  let mut seen ← readFile? path
  repeat
    IO.sleep 2000
    let content ← readFile? path
    if content.map ByteArray.data ≠ seen.map ByteArray.data then
      seen := content
      registry := reload registry content
  pure 0

end Waymark.Cli

/-- Runs a command line. -/
def main (arguments : List String) : IO UInt32 := do
  match Waymark.Cli.parse arguments with
  | .error stop => stop.report.print
  | .ok invocation =>
      let content ← match invocation.config with
        | some path => Waymark.Cli.readFile? path
        | none => pure none
      match invocation.run content with
      | .done report => report.print
      | .watching path registry => Waymark.Cli.watch path registry

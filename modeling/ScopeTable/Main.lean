/-
# ScopeTable.Main -- the program

The command line tool: it takes its arguments, its environment and the file of its program from the system,
and leaves everything else to the commands.
-/
import ScopeTable.Console.Run

namespace ScopeTable.Console

/-- The bytes of a file, or why it cannot be read. -/
def readFile (path : String) : IO (Except ReadError ByteArray) := do
  try
    return .ok (← IO.FS.readBinFile path)
  catch
    | .noFileOrDirectory .. => return .error .notFound
    | e => return .error (.other e.toString)

/-- Lines as a text, each with its line break. -/
def textOfLines (lines : List String) : String := String.join (lines.map (· ++ "\n"))

/-- A cause as plain text. -/
def Cause.text : Cause → String
  | .reading e => e.message
  | .decoding (.text .malformed) => "the text is not JSON"
  | .decoding (.text .truncated) => "the text ends too early"
  | .decoding (.data mismatch) => mismatch.message

/-- A report as plain text. -/
def reportLines (report : Report) : List String :=
  ["Error: " ++ report.code, "  " ++ report.message] ++
    report.cause.toList.map (fun cause => "  caused by: " ++ cause.text) ++
    report.help.toList.map ("  help: " ++ ·)

/-- How the program is used. -/
def usageLines : List String :=
  ["Usage: opal check FILE", "       opal symbols FILE",
    "       opal lookup FILE --class C [--field F | --method M [--var V]]"]

end ScopeTable.Console

open ScopeTable ScopeTable.Console in
/-- Runs the program. -/
def main (args : List String) : IO UInt32 := do
  match Command.ofArguments args with
  | .error .version => do
    IO.println versionText
    return 0
  | .error stop => do
    let text := textOfLines usageLines
    if stop.exitCode = 0 then IO.print text else IO.eprint text
    return .ofNat stop.exitCode
  | .ok command => do
    let colour ← IO.getEnv "OPAL_COLORIZE"
    let noColour ← IO.getEnv "NO_COLOR"
    let level ← IO.getEnv "OPAL_LOG_LEVEL"
    let settings := Settings.ofEnvironment fun
      | "OPAL_COLORIZE" => colour
      | "NO_COLOR" => noColour
      | "OPAL_LOG_LEVEL" => level
      | _ => none
    let run := command.run (← readFile command.path)
    IO.eprint (writtenOf settings.verbosity run.notices)
    IO.print run.printed
    if let some report := run.report? then
      IO.eprint (textOfLines (reportLines report))
    return .ofNat run.exitCode

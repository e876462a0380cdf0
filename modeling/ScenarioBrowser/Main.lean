import ScenarioBrowser.CommandLine
import ScenarioBrowser.Logging
import ScenarioBrowser.Shell

/-!
# The program

Reads the command line, loads the configuration, sets up the log and shows the screen that
the browser begins with. Every decision is made by the library; this module reads files and
the environment, and prints.
-/

namespace ScenarioBrowser.Program

/-- The size of the screen that is shown. -/
def columns : Nat := 80

def lines : Nat := 24

/-- What reading the regular file gives that a path names, if it names one. What cannot be looked
at is no regular file. -/
def look? (path : String) : IO (Option FileReading) := do
  let isRegular ← try
    let found ← (← IO.FS.realPath path).metadata
    pure (found.type == .file)
  catch _ =>
    pure false
  if !isRegular then return none
  try
    return some (.bytes (← IO.FS.readBinFile path))
  catch _ =>
    return some .refused

/-- The path of the working directory, if it can be found out. -/
def directory? : IO (Option String) := do
  try
    return some (← IO.currentDir).toString
  catch _ =>
    return none

/-- The working directory, as far as a loading looks at it. -/
def workplace (loading : Loading) : IO Workplace := do
  let found ← look? loading.path
  return ⟨← directory?, fun path => if path = loading.path then found else none⟩

/-- Opens a file for appending, if it can be opened. -/
def touch (path : String) : IO (Except Failure Unit) := do
  try
    let _ ← IO.FS.Handle.mk path .append
    return .ok ()
  catch _ =>
    return .error (Logging.unwritable path)

/-- Prints a failure, the outermost text first. -/
def report (failure : Failure) : IO UInt32 := do
  IO.eprintln ("Error: " ++ failure.message)
  for text in failure.inner do
    IO.eprintln ("Caused by: " ++ text)
  return 1

/-- Ends the program where the command line asks for it or is not understood. -/
def stop (tracing : Option String) : CommandStop → IO UInt32
  | .help => do
    IO.print (CommandLine.helpText tracing)
    return 0
  | .version => do
    IO.print CommandLine.versionText
    return 0
  | _ => do
    IO.eprintln "error: the command line is not understood, try '--help'"
    return 2

/-- Shows the first screen. -/
def present (shell : Shell) : IO UInt32 := do
  let begun := Component.init shell
  for row in (Component.draw begun.state).rows columns lines do
    IO.println row.text
  return 0

/-- The program after the command line was understood. -/
def run (line : CommandLine) : IO UInt32 := do
  let filter ← IO.getEnv Logging.filterVariable
  match line.loading.load (← workplace line.loading) with
  | .error failure => report failure
  | .ok loaded =>
    match Logging.plan loaded.configuration filter with
    | .error failure => report failure
    | .ok plan =>
      let opened ← match plan.file with
        | some path => touch path
        | none => pure (.ok ())
      match opened, (Shell.start loaded).1 with
      | .error failure, _ | _, .error failure => report failure
      | .ok _, .ok shell => present shell

end ScenarioBrowser.Program

/-- The command line program. -/
def main (arguments : List String) : IO UInt32 := do
  let tracing ← IO.getEnv ScenarioBrowser.CommandLine.traceVariable
  match ScenarioBrowser.CommandLine.read arguments tracing with
  | .error reason => ScenarioBrowser.Program.stop tracing reason
  | .ok line => ScenarioBrowser.Program.run line

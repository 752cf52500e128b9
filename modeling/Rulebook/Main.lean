import Rulebook.Launch.Transcript

/-!
# Command Line

Runs the service from a command line. Nothing is sent over a net: no database is
within reach, and the end of the standard input is taken for the signal to stop.
-/

namespace Rulebook

open Launch (filterFor lineOf)

/-- What comes of the deeds that reach outside when there is no net. -/
def withoutNet : Outcomes where
  connect := .error (Database.disconnection "Network is unreachable (os error 101)")
  migrate := .ok ()
  bind := .ok ()
  interruption := .signal

/-- The text of a line of the log. -/
def lineText : Launch.Line → String
  | .forPeople text => text
  | .forPrograms v => v.compact

/-- Waits for the end of the standard input. -/
partial def awaitEnd (stdin : IO.FS.Stream) : IO Unit := do
  let line ← stdin.getLine
  unless line.isEmpty do awaitEnd stdin

/-- Does a deed, as far as it can be seen. -/
def perform (settings : Settings) (filter : Log.Filter) : Deed → IO Unit
  | .say event => do
    if filter.allows event then IO.println (lineText (lineOf settings event))
  | .serve => do awaitEnd (← IO.getStdin)
  | _ => pure ()

/-- The variables of the settings, as they are now. -/
def currentEnvironment : IO Settings.Environment := do
  let held ← Setting.all.mapM fun setting => do
    return (setting.variableName, ← IO.getEnv setting.variableName)
  return fun name => (held.lookup name).join

/-- Does what a run does, with lines for the events that are let through. -/
def run (environment : Settings.Environment) (settings : Settings) : IO Launch.Transcript := do
  match filterFor environment settings with
  | .error torn => return Launch.brokenStart torn
  | .ok (filter, complaints) =>
    let course := launch settings withoutNet
    course.deeds.forM (perform settings filter)
    return Launch.ofCourse filter complaints settings course

end Rulebook

open Rulebook in
/-- Runs the service with the words of a command line. -/
def main (words : List String) : IO UInt32 := do
  let environment ← currentEnvironment
  let seen ←
    match Settings.readSettings environment words with
    | .error fault => pure (Launch.refusedStart environment fault)
    | .ok settings => run environment settings
  IO.print seen.output
  IO.eprint seen.errors
  return ((seen.exitCode).getD 0).toUInt32

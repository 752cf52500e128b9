import Rulebook.Launch
import Rulebook.Log.Filter
import Rulebook.Log.Line
import Rulebook.Settings.Help

/-!
# Transcripts

What somebody sees who starts the service from a command line: lines of the log,
what goes to the two outputs, and the code at the end.

## Main definitions

* `filterFor`: Which events get a line.
* `exitCode?`, `lastWords`: What is left when a run is over.
* `Transcript`: All that is seen of a run.
* `transcribe`: What is seen of a run.
-/

namespace Rulebook
namespace Launch

open Log (Event Filter)
open Settings (Environment SettingsFault)

/-- The filter that the variable holds, if there is nothing wrong with it. -/
def heldFilter (environment : Environment) : Except Text.Torn (Option Filter) :=
  match environment Setting.logLevel.variableName with
  | some s => Filter.strict s
  | none => .ok none

/-- Which events get a line, and complaints about the setting. The variable
    counts if there is nothing wrong with it, and the setting otherwise. -/
def filterFor (environment : Environment) (settings : Settings) :
    Except Text.Torn (Filter × List String) := do
  match ← heldFilter environment with
  | some filter => .ok (filter, [])
  | none => Filter.lenient settings.logLevel

/-- The code that a run ends with; nothing where a signal ends it. -/
def exitCode? : Ending → Option Nat
  | .finished => some 0
  | .failed _ => some 1
  | .aborted _ => some 101
  | .killed => none

/-- What a run complains of at its end. -/
def lastWords : Ending → String
  | .failed failure => "Error: " ++ failure.report ++ "\n"
  | .aborted message => message
  | .finished | .killed => ""

/-- The events among some deeds. -/
def eventsOf (deeds : List Deed) : List Event :=
  deeds.filterMap fun
    | .say event => some event
    | _ => none

/-- A line of a log. -/
inductive Line where
  | forPeople (text : String)
  | forPrograms (v : Json)

/-- The line of an event. -/
def lineOf (settings : Settings) (event : Event) : Line :=
  if settings.logJson then .forPrograms event.toJson else .forPeople event.line

/-- All that is seen of a run. -/
structure Transcript where
  exitCode : Option Nat
  output : String := ""
  log : List Line := []
  /-- What is wrong with the choice of the log's lines. -/
  complaints : List String := []
  /-- What a run complains of at its end. -/
  lastWords : String := ""
  /-- What was done. -/
  deeds : List Deed := []

/-- All that a run complains of. -/
def Transcript.errors (seen : Transcript) : String :=
  "".intercalate (seen.complaints.map (· ++ "\n")) ++ seen.lastWords

/-- What is seen of a run that the settings did not come to. -/
def refusedStart (environment : Environment) : SettingsFault → Transcript
  | .helpWanted => { exitCode := some 0, output := Settings.helpText environment }
  | fault => { exitCode := some 2, lastWords := "error: " ++ fault.message ++ "\n" }

/-- What is seen of a run whose log could not be set up. -/
def brokenStart (torn : Text.Torn) : Transcript :=
  { exitCode := exitCode? (.aborted torn.message), lastWords := lastWords (.aborted torn.message) }

/-- What is seen of the course of a run. -/
def ofCourse (filter : Filter) (complaints : List String) (settings : Settings)
    (course : Course) : Transcript :=
  { exitCode := exitCode? course.ending
    log := ((eventsOf course.deeds).filter filter.allows).map (lineOf settings)
    complaints
    lastWords := lastWords course.ending
    deeds := course.deeds }

/-- What is seen of a run. -/
def transcribe (environment : Environment) (words : List String) (outcomes : Outcomes) :
    Transcript :=
  match Settings.readSettings environment words with
  | .error fault => refusedStart environment fault
  | .ok settings =>
    match filterFor environment settings with
    | .error torn => brokenStart torn
    | .ok (filter, complaints) => ofCourse filter complaints settings (launch settings outcomes)

end Launch
end Rulebook

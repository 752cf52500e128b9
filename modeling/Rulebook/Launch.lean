import Rulebook.Database.Address
import Rulebook.Database.Row
import Rulebook.Log
import Rulebook.Origins
import Rulebook.Service
import Rulebook.Settings
import Rulebook.Socket

/-!
# Launch

From its settings to its end, a run of the service is a course of deeds: it says
what it does, opens the place where its rules are kept, listens, serves, and
closes that place again. What comes of the deeds that reach outside is given;
everything else follows from the settings. The first thing that goes wrong ends
the course.

## Main definitions

* `Deed`, `Ending`, `Course`: What a run does, and how it ends.
* `Outcomes`: What comes of the deeds that reach outside.
* `openPlace`, `checkOrigins`, `serve`: The stages of a run.
* `launch`: The course of a run.
-/

namespace Rulebook

open Log (Event)

/-- Where rules are kept. -/
inductive Place where
  | memory
  | database (url : String)
  deriving DecidableEq, Repr

/-- What a run does. -/
inductive Deed where
  | say (event : Event)
  | openPlace (place : Place)
  | migrate
  | listen (socket : Socket)
  | serve
  | closePlace
  deriving DecidableEq, Repr

/-- How a run ends. -/
inductive Ending where
  | finished
  | failed (failure : Failure)
  /-- The run breaks off for a slip that should not have been possible. -/
  | aborted (message : String)
  /-- A signal that nobody waited for ends the run. -/
  | killed
  deriving DecidableEq, Repr

/-- What a run does, in order, and how it ends. -/
structure Course where
  deeds : List Deed
  ending : Ending
  deriving DecidableEq, Repr

/-- What ends the serving of requests. -/
inductive Interruption where
  /-- Somebody asks the service to stop. -/
  | signal
  | failure (failure : Failure)
  deriving DecidableEq, Repr

/-- What comes of the deeds that reach outside. -/
structure Outcomes where
  connect : Except Failure Unit
  migrate : Except Failure Unit
  bind : Except Failure Unit
  interruption : Interruption

namespace Course

/-- A course that goes on after some deeds. -/
def before (deeds : List Deed) (course : Course) : Course :=
  { course with deeds := deeds ++ course.deeds }

/-- A course that ends at once, with a failure. -/
def fail (failure : Failure) : Course :=
  { deeds := [], ending := .failed failure }

end Course

namespace Launch

/-- What a run says about itself. -/
def note (message : String) (details : List (String × Log.Detail)) : Deed :=
  .say { level := .info, target := "expense_rules", message, details }

/-- Serves until something ends it. Only a service that waits for a signal
    closes the place of its rules when one comes. -/
def serve (settings : Settings) (outcomes : Outcomes) : Course :=
  match outcomes.interruption with
  | .failure failure =>
    { deeds := [.serve, note "Shutting down..." [], .closePlace], ending := .failed failure }
  | .signal =>
    if settings.gracefulShutdown then
      { deeds := [.serve, note "Received shutdown signal" [], note "Shutting down..." [],
          .closePlace, note "Shutdown complete" []]
        ending := .finished }
    else { deeds := [.serve], ending := .killed }

/-- Listens at the configured address. -/
def listen (settings : Settings) (outcomes : Outcomes) : Course :=
  match Socket.read? settings.listenAddress with
  | none => .fail { text := Socket.refusalMessage }
  | some socket =>
    .before [note "Starting HTTP server" [("addr", .shown socket.text)]]
      (match outcomes.bind with
        | .error failure => .fail failure
        | .ok () => .before [.listen socket] (serve settings outcomes))

/-- Looks at the origins that are let in. -/
def checkOrigins (settings : Settings) (outcomes : Outcomes) : Course :=
  match Origins.ofList? settings.origins with
  | .ok _ => listen settings outcomes
  | .error .wildcard => { deeds := [], ending := .aborted OriginFault.wildcard.message }
  | .error fault => .fail { text := fault.message }

/-- Sees to it that the table is there, if that is wanted. -/
def migrate (settings : Settings) (outcomes : Outcomes) : Course :=
  if settings.runMigrations then
    match outcomes.migrate with
    | .error failure => .before [.migrate] (.fail failure)
    | .ok () =>
      .before [.migrate, note "Database migrations applied" []] (checkOrigins settings outcomes)
  else checkOrigins settings outcomes

/-- The message of a run that is to keep no connection at all. -/
def noRoomMessage : String := "capacity must be non-zero"

/-- Opens the database with an address. There has to be room for a connection. -/
def openDatabase (settings : Settings) (outcomes : Outcomes) (url : String) : Course :=
  match Database.Address.read url with
  | .error fault => .fail fault.failure
  | .ok _ =>
    if settings.maxConnections = 0 then { deeds := [], ending := .aborted noRoomMessage }
    else
      match outcomes.connect with
      | .error failure => .fail failure
      | .ok () =>
        .before
          [.openPlace (.database url),
            note "Connected to PostgreSQL" [("max_connections", .number settings.maxConnections)]]
          (migrate settings outcomes)

/-- Opens the place where the rules are kept. -/
def openPlace (settings : Settings) (outcomes : Outcomes) : Course :=
  match settings.databaseUrl with
  | some url => if url.isEmpty then inMemory else openDatabase settings outcomes url
  | none => inMemory
where
  /-- Keeps the rules in memory. -/
  inMemory : Course :=
    .before [note "No database configured, using in-memory storage" [], .openPlace .memory]
      (checkOrigins settings outcomes)

end Launch

/-- The course of a run. -/
def launch (settings : Settings) (outcomes : Outcomes) : Course :=
  .before [Launch.note "Starting expense rules service" [("version", .quoted Service.version)]]
    (Launch.openPlace settings outcomes)

end Rulebook

import Rulebook.Database.Migration
import Rulebook.Database.Row
import Rulebook.Database.Statement

/-!
# Sessions

A session puts calls to a database, one statement at a time, and makes out what
is sent back. A connection that breaks costs the call that was under way and no
other. Once a session has been closed nothing gets through any more, and nothing
is sent.

## Main definitions

* `Session`: A way to a database.
* `Exchange`: What is sent, and what comes of it.
* `Session.ask`, `Session.probe`, `Session.migrate`: Exchanges with a database.
* `Session.close`: The end of a session.

## Theorems

* `ask_close`: After its end a session sends nothing and answers nothing.
-/

namespace Rulebook
namespace Database

/-- A way to a database. -/
structure Session where
  closed : Bool := false
  deriving DecidableEq, Repr

/-- What is sent to a database, and what comes of it. -/
structure Exchange (α : Type) where
  sent : List Statement
  result : Except Failure α

/-- The failure of a call after its session has been closed. -/
def closedFailure : Failure :=
  { text := "attempted to acquire a connection on a closed pool" }

namespace Session

/-- The name under which a session reports where rules are kept. -/
def backend : String := "postgres"

/-- An exchange, if the session is still open. -/
def exchange {α : Type} (session : Session) (sent : List Statement)
    (result : Except Failure α) : Exchange α :=
  if session.closed then ⟨[], .error closedFailure⟩ else ⟨sent, result⟩

/-- Puts a call to a database that sends back a reply. -/
def ask (session : Session) (call : Call) (reply : Reply) : Exchange call.Reply :=
  session.exchange [Statement.ofCall call] (concludeReply call reply)

/-- Asks a database whether it is within reach. -/
def probe (session : Session) (reply : Reply) : Exchange Unit :=
  session.exchange [Statement.reach] reply.outcome

/-- Runs the script where the journal does not have it. The exchange ends with
    the script if the database refuses that. -/
def migrate (session : Session) (journal : Journal) (reply : Reply) : Exchange Unit :=
  if session.closed then ⟨[], .error (migrating closedFailure)⟩
  else
    match plan journal with
    | .error fault => ⟨[], .error fault.failure⟩
    | .ok [] => ⟨[], .ok ()⟩
    | .ok sent =>
      match reply.outcome with
      | .ok () => ⟨sent, .ok ()⟩
      | .error failure => ⟨scripted, .error (scriptFailure failure)⟩

/-- The end of a session. -/
def close (_ : Session) : Session :=
  { closed := true }

/-- After its end a session sends nothing and answers nothing. -/
@[simp] theorem ask_close (session : Session) (call : Call) (reply : Reply) :
    session.close.ask call reply = ⟨[], .error closedFailure⟩ :=
  rfl

end Session
end Database
end Rulebook

import Rulebook.Database.Row

/-!
# Migrations

Before the rules are kept in a database, their table has to be there. A journal
in the database says which scripts have been run; it is compared with the one
script that there is, by number and by checksum, before that is run.

## Main definitions

* `script`: The script that makes the table.
* `Journal`: What the database says about scripts that have been run.
* `MigrationFault`: Why a journal does not fit, with `MigrationFault.failure`.
* `migrating`, `scriptFailure`: What a failure on the way amounts to.
* `scripted`, `journaled`: What is run, all of it or nothing.
* `plan`: What has to be run.
-/

namespace Rulebook
namespace Database

/-- The number of the script. -/
def scriptVersion : Nat := 20240101000000

/-- What the journal calls the script. -/
def scriptDescription : String := "create rules"

/-- The checksum of the script, in hexadecimal. -/
def scriptChecksum : String :=
  "38b48dfb6a34335fbd62aa7bc54329bf65fae9adcb41a94b8138f8117cacc089" ++
    "26619110d644d57839e17e2f8013da6d"

/-- The script that makes the table. -/
def script : String :=
  "CREATE TABLE IF NOT EXISTS rules ( id TEXT PRIMARY KEY, name TEXT NOT NULL, " ++
    "description TEXT, condition TEXT NOT NULL, action TEXT NOT NULL, " ++
    "is_active BOOLEAN NOT NULL DEFAULT TRUE, created_at TIMESTAMPTZ NOT NULL, " ++
    "updated_at TIMESTAMPTZ NOT NULL, CONSTRAINT rules_timestamps_ordered " ++
    "CHECK (created_at <= updated_at) ); " ++
    "CREATE INDEX IF NOT EXISTS rules_created_at_idx ON rules (created_at);"

/-- What the database says about scripts that have been run. -/
structure Journal where
  /-- The number of a script that was broken off. -/
  broken : Option Nat := none
  /-- Numbers and checksums of the scripts that have been run. -/
  applied : List (Nat × String) := []
  deriving DecidableEq, Repr

/-- Why a journal does not fit. -/
inductive MigrationFault where
  | broken (version : Nat)
  | unheardOf (version : Nat)
  | changed (version : Nat)
  deriving DecidableEq, Repr

/-- The wording of a fault. -/
def MigrationFault.message : MigrationFault → String
  | .broken version =>
    "migration " ++ toString version ++
      " is partially applied; fix and remove row from `_sqlx_migrations` table"
  | .unheardOf version =>
    "migration " ++ toString version ++
      " was previously applied but is missing in the resolved migrations"
  | .changed version =>
    "migration " ++ toString version ++ " was previously applied but has been modified"

/-- A fault as a failure. -/
def MigrationFault.failure (fault : MigrationFault) : Failure :=
  { text := fault.message }

/-- The failure to look into the journal, above its cause. -/
def migrating (cause : Failure) : Failure :=
  cause.under ("while executing migrations: " ++ cause.text)

/-- The failure of the script, above its cause. -/
def scriptFailure (cause : Failure) : Failure :=
  cause.under ("while executing migration " ++ toString scriptVersion ++ ": " ++ cause.text)

/-- The start of what has to be run, up to the script. -/
def scripted : List Statement :=
  [.script "BEGIN", .script script]

/-- The rest of what has to be run: the script is put into the journal. -/
def journaled : List Statement :=
  [.prepared ("INSERT INTO _sqlx_migrations ( version, description, success, checksum, " ++
      "execution_time ) VALUES ( $1, $2, TRUE, $3, -1 )")
      [.number scriptVersion, .text scriptDescription, .octets scriptChecksum],
    .script "COMMIT"]

/-- What has to be run after what the journal says. -/
def plan (journal : Journal) : Except MigrationFault (List Statement) :=
  match journal.broken with
  | some version => .error (.broken version)
  | none =>
    match journal.applied.find? (·.1 ≠ scriptVersion) with
    | some (version, _) => .error (.unheardOf version)
    | none =>
      match journal.applied.getLast? with
      | none => .ok (scripted ++ journaled)
      | some (_, checksum) =>
        if checksum = scriptChecksum then .ok [] else .error (.changed scriptVersion)

end Database
end Rulebook

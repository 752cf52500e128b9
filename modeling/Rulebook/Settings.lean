/-!
# Settings

The nine things that can be set about a running service. Every setting has an
option on the command line and a variable in the environment, and all but one
have a value when neither says anything. What a setting may hold hangs on its
name alone, so that choices are gathered as they come and the settings are put
together from them in the end.

What holds when nothing is said is written down in two places: as values, for
settings that are not read at all, and as words, which are read like those of a
caller. Only the origins are taken from one list for both.

## Main definitions

* `Settings`: The values of all settings, with `Settings.standard`.
* `Setting`: The names of the settings, with their options and variables.
* `Setting.standardWords`: The words that are read where a caller says nothing.
* `Choices`: The values that have been chosen.

## Theorems

* `option_injective`: No two settings have the same option.
-/

namespace Rulebook

/-- The values of all settings. -/
structure Settings where
  /-- Where the service listens. -/
  listenAddress : String
  databaseUrl : Option String
  minConnections : Nat
  maxConnections : Nat
  runMigrations : Bool
  /-- The origins whose pages are let in. -/
  origins : List String
  logLevel : String
  logJson : Bool
  gracefulShutdown : Bool
  deriving DecidableEq, Repr

/-- The origins that are let in when nothing is chosen. -/
def standardOrigins : List String :=
  ["http://localhost:5173", "http://localhost:3000"]

/-- The settings when nothing is read. -/
def Settings.standard : Settings where
  listenAddress := "0.0.0.0:8000"
  databaseUrl := none
  minConnections := 1
  maxConnections := 10
  runMigrations := true
  origins := standardOrigins
  logLevel := "info"
  logJson := false
  gracefulShutdown := true

/-- Whether rules are to be kept in a database. An empty address means no. -/
def Settings.usesDatabase (settings : Settings) : Bool :=
  match settings.databaseUrl with
  | some url => !url.isEmpty
  | none => false

/-- The names of the settings, in the order in which they are explained. -/
inductive Setting where
  | listenAddress
  | databaseUrl
  | minConnections
  | maxConnections
  | runMigrations
  | origins
  | logLevel
  | logJson
  | gracefulShutdown
  deriving DecidableEq, Repr

namespace Setting

/-- What a setting may hold. -/
inductive Kind where
  | text
  /-- A number of thirty-two bits. -/
  | number
  | switch
  /-- Texts with commas between them. -/
  | texts
  deriving DecidableEq, Repr

/-- The values of a kind. -/
abbrev Kind.Value : Kind → Type
  | .text => String
  | .number => Nat
  | .switch => Bool
  | .texts => List String

/-- What a setting may hold. -/
abbrev kind : Setting → Kind
  | .listenAddress | .databaseUrl | .logLevel => .text
  | .minConnections | .maxConnections => .number
  | .runMigrations | .logJson | .gracefulShutdown => .switch
  | .origins => .texts

/-- All settings, in their order. -/
def all : List Setting :=
  [.listenAddress, .databaseUrl, .minConnections, .maxConnections, .runMigrations, .origins,
    .logLevel, .logJson, .gracefulShutdown]

/-- The option of a setting, without the dashes in front. -/
def option : Setting → String
  | .listenAddress => "listen-addr"
  | .databaseUrl => "database-url"
  | .minConnections => "db-min-connections"
  | .maxConnections => "db-max-connections"
  | .runMigrations => "run-migrations"
  | .origins => "cors-origins"
  | .logLevel => "log-level"
  | .logJson => "log-json"
  | .gracefulShutdown => "graceful-shutdown"

/-- The variable of a setting. -/
def variableName : Setting → String
  | .listenAddress => "EXPENSE_RULES_LISTEN_ADDR"
  | .databaseUrl => "DATABASE_URL"
  | .minConnections => "EXPENSE_RULES_DB_MIN_CONNECTIONS"
  | .maxConnections => "EXPENSE_RULES_DB_MAX_CONNECTIONS"
  | .runMigrations => "EXPENSE_RULES_RUN_MIGRATIONS"
  | .origins => "EXPENSE_RULES_CORS_ORIGINS"
  | .logLevel => "RUST_LOG"
  | .logJson => "EXPENSE_RULES_LOG_JSON"
  | .gracefulShutdown => "EXPENSE_RULES_GRACEFUL_SHUTDOWN"

/-- The words that are read for a setting that is chosen nowhere, each as if a caller had
    written it. -/
def standardWords : Setting → List String
  | .listenAddress => ["0.0.0.0:8000"]
  | .databaseUrl => []
  | .minConnections => ["1"]
  | .maxConnections => ["10"]
  | .runMigrations => ["true"]
  | .origins => standardOrigins
  | .logLevel => ["info"]
  | .logJson => ["false"]
  | .gracefulShutdown => ["true"]

/-- The name of the value of an option. -/
def placeholder (setting : Setting) : String :=
  setting.option.map fun c => if c = '-' then '_' else c.toUpper

/-- An option with the placeholder of its value, as messages show it. -/
def shown (setting : Setting) : String :=
  "--" ++ setting.option ++ " <" ++ setting.placeholder ++ ">"

/-- The setting with an option, if there is one. -/
def ofOption? (name : String) : Option Setting :=
  all.find? (·.option = name)

-- No setting is left out of the list.
@[simp] theorem mem_all (setting : Setting) : setting ∈ all := by
  cases setting <;> simp [all]

/-- No two settings have the same option. -/
theorem option_injective {a b : Setting} (h : a.option = b.option) : a = b := by
  cases a <;> cases b <;> simp_all [option]

-- A setting is found by its option.
@[simp] theorem ofOption?_option (setting : Setting) : ofOption? setting.option = some setting := by
  cases setting <;> decide

end Setting

/-- The values that have been chosen. -/
abbrev Choices := (setting : Setting) → Option setting.kind.Value

namespace Choices

/-- Nothing has been chosen. -/
def empty : Choices := fun _ => none

/-- Puts a value in the place of what was chosen before. -/
def put (choices : Choices) (setting : Setting) (value : setting.kind.Value) : Choices := fun s =>
  if h : setting = s then some (h ▸ value) else choices s

-- A value is found at its setting.
@[simp] theorem put_self (choices : Choices) (setting : Setting) (value : setting.kind.Value) :
    choices.put setting value setting = some value := by
  simp [put]

-- Other settings are left alone.
@[simp] theorem put_of_ne {choices : Choices} {setting s : Setting} {value : setting.kind.Value}
    (h : setting ≠ s) : choices.put setting value s = choices s := by
  simp [put, h]

end Choices

end Rulebook

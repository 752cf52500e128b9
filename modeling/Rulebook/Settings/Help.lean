import Rulebook.Settings.CommandLine

/-!
# Help

What a caller is told about the options: for each of them what it is for, what
its variable holds at the moment, its standard, and the words that it takes. The
names of options are set in bold type; what is told is what is seen of that.

## Main definitions

* `Setting.purpose`: What a setting is for.
* `Setting.standardText`: The standard of a setting, as text.
* `Settings.bold`, `Settings.hanging`: How text is set.
* `Settings.helpText`: The whole text.
-/

namespace Rulebook
namespace Setting

/-- What a setting is for. -/
def purpose : Setting → String
  | .listenAddress => "HTTP server listen address"
  | .databaseUrl =>
    "PostgreSQL connection URL (optional, uses in-memory storage if not set)"
  | .minConnections => "Minimum pooled database connections"
  | .maxConnections => "Maximum pooled database connections"
  | .runMigrations => "Apply embedded migrations on startup"
  | .origins => "Origins allowed to make cross-origin requests (comma separated)"
  | .logLevel => "Log level (trace, debug, info, warn, error)"
  | .logJson => "Emit logs as JSON lines"
  | .gracefulShutdown => "Enable graceful shutdown"

/-- The standard of a setting, as text, if it has one. -/
def standardText (setting : Setting) : Option String :=
  if setting.standardWords.isEmpty then none else some (" ".intercalate setting.standardWords)

end Setting

namespace Settings

/-- A remark in brackets. -/
def remark (label text : String) : String :=
  " [" ++ label ++ ": " ++ text ++ "]"

/-- A text in bold type, for a terminal. -/
def bold (s : String) : String :=
  "\x1b[1m" ++ s ++ "\x1b[0m"

/-- The blanks in front of what is said about an option. -/
def indent : String := "          "

/-- A text with every line but the first one indented. -/
def hanging (s : String) : String :=
  ("\n" ++ indent).intercalate (s.splitOn "\n")

/-- The lines about a setting. -/
def helpLines (environment : Environment) (setting : Setting) : List String :=
  let held := (environment setting.variableName).getD ""
  let standard := (setting.standardText.map (remark "default")).getD ""
  let words := if setting.kind = .switch then remark "possible values" "true, false" else ""
  ["      " ++ bold ("--" ++ setting.option) ++ " <" ++ setting.placeholder ++ ">",
   indent ++ setting.purpose ++
    remark "env" (setting.variableName ++ "=" ++ hanging held) ++ standard ++ words]

/-- What a caller is told about the options. -/
def helpText (environment : Environment) : String :=
  let lines :=
    ["CRUD service for expense rules", "", bold "Usage:" ++ " expense-rules [OPTIONS]", "",
      bold "Options:"] ++
      Setting.all.flatMap (helpLines environment) ++
      ["  " ++ bold "-h" ++ ", " ++ bold "--help", indent ++ "Print help"]
  Text.visible ("".intercalate (lines.map (· ++ "\n")))

end Settings
end Rulebook

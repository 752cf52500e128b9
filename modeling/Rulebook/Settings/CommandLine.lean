import Rulebook.Decimal.Integer
import Rulebook.Settings
import Rulebook.Text.Visible

/-!
# Command Line and Environment

Settings are chosen by options, and for those that no option chose, by the
environment. What neither chose is chosen by words that are always there, and
those are read like any others. An option may carry its value behind an equals
sign or in the next word. A word that comes next is held back until another
option or the end of the line shows that nothing else is wrong: a word that
nobody asked for is reported before a value that does not fit.

## Main definitions

* `SettingsFault`: What is wrong, with `SettingsFault.message`.
* `parseValue`: The value that a word stands for.
* `choose`: Adds a value to the choices.
* `walk`: Goes through the words of a command line.
* `consult`: Asks the environment for what has not been chosen.
* `supply`: Chooses the standard where nothing else has been chosen.
* `ofChoices`: The settings that have been chosen.
* `readSettings`: The settings that words and environment choose.

## Theorems

* `intercalate_splitCommas`: Splitting at commas loses nothing else.
-/

namespace Rulebook
namespace Settings

/-- What is wrong with a command line or an environment. -/
inductive SettingsFault where
  /-- The caller wants to be told about the options. -/
  | helpWanted
  | unknown (word : String)
  | noValue (setting : Setting)
  /-- A switch is neither on nor off. -/
  | badSwitch (setting : Setting) (word : String)
  | badNumber (setting : Setting) (word reason : String)
  | repeated (setting : Setting)
  /-- A value is attached to an option that takes none. -/
  | unwanted (word : String)
  deriving DecidableEq, Repr

/-- The wording of the lack of a value. -/
def noValueMessage (setting : Setting) : String :=
  "a value is required for '" ++ setting.shown ++ "' but none was supplied"

/-- The wording of a value that does not fit. -/
def badValueMessage (setting : Setting) (word : String) : String :=
  "invalid value '" ++ Text.visible word ++ "' for '" ++ setting.shown ++ "'"

/-- The wording of a fault. An empty switch reads as one without a value. Of the
    words that somebody wrote, only what is seen is repeated. -/
def SettingsFault.message : SettingsFault → String
  | .helpWanted => ""
  | .unknown word => "unexpected argument '" ++ Text.visible word ++ "' found"
  | .noValue setting => noValueMessage setting
  | .badSwitch setting word =>
    if word.isEmpty then noValueMessage setting else badValueMessage setting word
  | .badNumber setting word reason => badValueMessage setting word ++ ": " ++ reason
  | .repeated setting =>
    "the argument '" ++ setting.shown ++ "' cannot be used multiple times"
  | .unwanted word =>
    "unexpected value '" ++ Text.visible word ++ "' for '--help' found; no more were expected"

/-- The largest number that a setting may hold. -/
def largestNumber : Int := 4294967295

/-- The number that a word stands for, or else what is wrong with it. -/
def parseNumber (word : String) : Except String Nat :=
  match Decimal.readInteger (-9223372036854775808) 9223372036854775807 word.toList with
  | .error fault => .error fault.message
  | .ok n =>
    if 0 ≤ n ∧ n ≤ largestNumber then .ok n.toNat
    else .error (toString n ++ " is not in 0..=" ++ toString largestNumber)

/-- The texts between the commas of a word. -/
def splitCommas : List Char → List (List Char)
  | [] => [[]]
  | c :: rest =>
    if c = ',' then [] :: splitCommas rest
    else
      match splitCommas rest with
      | first :: others => (c :: first) :: others
      | [] => [[c]]

-- There is always a first text, if an empty one.
theorem splitCommas_ne_nil (cs : List Char) : splitCommas cs ≠ [] := by
  induction cs with
  | nil => simp [splitCommas]
  | cons c rest ih =>
    simp only [splitCommas]
    split
    · simp
    · split <;> simp

/-- With commas between them the texts make up the word again. -/
theorem intercalate_splitCommas (cs : List Char) :
    [','].intercalate (splitCommas cs) = cs := by
  induction cs with
  | nil => rfl
  | cons c rest ih =>
    obtain ⟨first, others, hs⟩ := List.exists_cons_of_ne_nil (splitCommas_ne_nil rest)
    rw [hs] at ih
    by_cases h : c = ','
    · -- A comma ends an empty text in front of the others.
      subst h
      simp only [splitCommas, ↓reduceIte, hs]
      rw [← ih]
      simp [List.intercalate]
    · -- Any other character is added to the first text.
      cases others <;> simp_all [splitCommas, List.intercalate, List.intersperse]

/-- The value that a word stands for. -/
def parseValue (setting : Setting) (word : String) :
    Except SettingsFault setting.kind.Value :=
  match setting.kind with
  | .text => .ok word
  | .number =>
    match parseNumber word with
    | .ok n => .ok n
    | .error reason => .error (.badNumber setting word reason)
  | .switch =>
    if word = "true" then .ok true
    else if word = "false" then .ok false
    else .error (.badSwitch setting word)
  | .texts => .ok ((splitCommas word.toList).map String.ofList)

/-- Adds a value to the choices. Texts are added to those chosen before; any
    other value may be chosen once. -/
def choose (choices : Choices) (setting : Setting) (word : String) :
    Except SettingsFault Choices :=
  match setting with
  | .origins => do
    let more ← parseValue .origins word
    .ok (choices.put .origins ((choices .origins).getD [] ++ more))
  | setting =>
    if (choices setting).isSome then .error (.repeated setting)
    else do
      let value ← parseValue setting word
      .ok (choices.put setting value)

/-- An option that is still to be dealt with, and its value if that has come. -/
abbrev Pending := Option (Setting × Option String)

/-- Deals with the option that has been held back. -/
def settle (choices : Choices) : Pending → Except SettingsFault Choices
  | none => .ok choices
  | some (setting, none) => .error (.noValue setting)
  | some (setting, some word) => choose choices setting word

/-- Splits the text of an option at its first equals sign. -/
def splitEquals (cs : List Char) : String × Option String :=
  let name := String.ofList (cs.takeWhile (· ≠ '='))
  match cs.dropWhile (· ≠ '=') with
  | _ :: value => (name, some (String.ofList value))
  | [] => (name, none)

/-- What a word of the command line is. -/
inductive Word where
  /-- Two dashes alone: only plain words follow. -/
  | divider
  | option (name : String) (value : Option String)
  /-- A dash and the letter behind it. -/
  | short (letter : Char)
  | plain
  deriving DecidableEq, Repr

/-- What a word of the command line is. -/
def Word.of (word : String) : Word :=
  match word.toList with
  | ['-', '-'] => .divider
  | '-' :: '-' :: cs =>
    let (name, value) := splitEquals cs
    .option name value
  | '-' :: letter :: _ => .short letter
  | _ => .plain

/-- Goes through the words of a command line. -/
def walk (choices : Choices) (pending : Pending) : List String → Except SettingsFault Choices
  | [] => settle choices pending
  | word :: rest =>
    match Word.of word with
    | .divider =>
      match rest with
      | [] => settle choices pending
      | extra :: _ => .error (.unknown extra)
    | .option name value =>
      match Setting.ofOption? name, value with
      | some setting, some value => do
        let choices ← settle choices pending
        let choices ← choose choices setting value
        walk choices none rest
      | some setting, none => do
        let choices ← settle choices pending
        walk choices (some (setting, none)) rest
      | none, some value =>
        if name = "help" then .error (.unwanted value) else .error (.unknown ("--" ++ name))
      | none, none =>
        if name = "help" then do
          let _ ← settle choices pending
          .error .helpWanted
        else .error (.unknown ("--" ++ name))
    | .short letter =>
      if letter = 'h' then do
        let _ ← settle choices pending
        .error .helpWanted
      else .error (.unknown ("-" ++ String.ofList [letter]))
    | .plain =>
      match pending with
      | some (setting, none) => walk choices (some (setting, some word)) rest
      | _ => .error (.unknown word)

/-- What the variables of an environment hold. -/
abbrev Environment := String → Option String

/-- Asks the environment for what has not been chosen. -/
def consult (environment : Environment) (choices : Choices) (setting : Setting) :
    Except SettingsFault Choices :=
  match choices setting, environment setting.variableName with
  | none, some word => choose choices setting word
  | _, _ => .ok choices

/-- Chooses the standard for a setting that has not been chosen, word by word. -/
def supply (choices : Choices) (setting : Setting) : Except SettingsFault Choices :=
  if (choices setting).isSome then .ok choices
  else setting.standardWords.foldlM (fun choices word => choose choices setting word) choices

/-- The value that has been chosen for a setting that cannot do without one. -/
def need (choices : Choices) (setting : Setting) : Except SettingsFault setting.kind.Value :=
  match choices setting with
  | some value => .ok value
  | none => .error (.noValue setting)

/-- The settings that have been chosen. There may be no database, and no origins. -/
def ofChoices (choices : Choices) : Except SettingsFault Settings := do
  let listenAddress ← need choices .listenAddress
  let minConnections ← need choices .minConnections
  let maxConnections ← need choices .maxConnections
  let runMigrations ← need choices .runMigrations
  let logLevel ← need choices .logLevel
  let logJson ← need choices .logJson
  let gracefulShutdown ← need choices .gracefulShutdown
  return {
    listenAddress, databaseUrl := choices .databaseUrl, minConnections, maxConnections,
    runMigrations, origins := (choices .origins).getD [], logLevel, logJson, gracefulShutdown }

/-- The settings that words and environment choose. -/
def readSettings (environment : Environment) (words : List String) :
    Except SettingsFault Settings := do
  let choices ← walk Choices.empty none words
  let choices ← Setting.all.foldlM (consult environment) choices
  let choices ← Setting.all.foldlM supply choices
  ofChoices choices

end Settings
end Rulebook

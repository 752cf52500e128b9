import Mathlib.Data.List.Forall2
import Rulebook.Proofs.Settings.Value

/-!
# Precedence

Three places may say what a setting is: an argument, the environment, and the standard.
The first of them that says something decides, for each setting by itself.

What the arguments come to is kept setting by setting while the words are gone through:
before any word, the choices are those of the arguments so far. So a single argument is
looked at in front of any others, and the order among the settings plays no part.
Origins are the exception that shapes the statement. They may be named in several
arguments, and their lists are put one behind the other; but what the environment says
of them is dropped as soon as there is one argument, and not put behind.

The standard comes last, and is not simply there: it is made up of words that are read
like those of a caller. That the words are readable, and that what is read is the
standard, are facts about two tables, and `together_standardWords` is where the one is
held against the other, setting by setting.

## Main definitions

* `Argument`, `Writes`: A setting with its value, and the words that give it.
* `said`: The values that arguments give a setting.
* `together`: What several values of a setting come to.
* `chosen`: The choices that arguments make.
* `Settings.value`: What the settings hold.

## Theorems

* `choose_of_spells`: A word for a value is added to the choices.
* `walk_arguments`: Going through the words of arguments makes their choices.
* `together_standardWords`: The words of the standard come to the standard.
* `foldlM_asked`: Settings are asked for one by one.
* `consult_eq`: The environment decides what no argument has decided.
* `supply_eq`: The standard decides what nothing else has decided.
* `ofChoices_eq_ok`: The settings hold what has been chosen.
* `settings_precedence`: Arguments come before the environment, and that before the
  standard.
-/

namespace Rulebook

namespace Settings

/-! ## Arguments -/

/-- A setting, and a value for it. -/
abbrev Argument := (setting : Setting) × setting.kind.Value

/-- A word gives a setting a value. -/
def Writes (word : String) (argument : Argument) : Prop :=
  ∃ text, Spells argument.1.kind argument.2 text ∧
    word = "--" ++ argument.1.option ++ "=" ++ text

/-- The values that arguments give a setting, in their order. -/
def said (arguments : List Argument) (setting : Setting) : List setting.kind.Value :=
  arguments.filterMap fun argument =>
    if h : argument.1 = setting then some (h ▸ argument.2) else none

/-- What several values of a setting come to. Lists are put one behind the other. -/
def together : (kind : Setting.Kind) → List kind.Value → Option kind.Value
  | .texts, [] => none
  | .texts, lists => some lists.flatten
  | .text, values => values.head?
  | .number, values => values.head?
  | .switch, values => values.head?

/-- The choices that arguments make. -/
def chosen (arguments : List Argument) : Choices := fun setting =>
  together setting.kind (said arguments setting)

/-- What a value comes to behind what was chosen before. -/
def behind : (kind : Setting.Kind) → Option kind.Value → kind.Value → kind.Value
  | .texts, before, texts => before.getD [] ++ texts
  | .text, _, value | .number, _, value | .switch, _, value => value

@[simp] theorem behind_none (kind : Setting.Kind) (value : kind.Value) :
    behind kind none value = value := by
  cases kind <;> rfl

@[simp] theorem together_nil (kind : Setting.Kind) : together kind [] = none := by
  cases kind <;> rfl

-- With a value more, several values come to that value behind the others.
theorem together_concat {kind : Setting.Kind} {values : List kind.Value} (value : kind.Value)
    (once : kind ≠ .texts → values = []) :
    together kind (values ++ [value]) = some (behind kind (together kind values) value) := by
  cases kind with
  | texts =>
    cases values with
    | nil => simp [together, behind]
    | cons first others => simp [together, behind]
  | text | number | switch =>
    rw [once (by decide)]
    rfl

-- In front of the only value there is no other.
theorem eq_nil_of_length_le_one {α : Type} {before after : List α} {value : α}
    (short : (before ++ value :: after).length ≤ 1) : before = [] := by
  rw [List.length_append, List.length_cons] at short
  exact List.eq_nil_of_length_eq_zero (by omega)

theorem said_append (before after : List Argument) (setting : Setting) :
    said (before ++ after) setting = said before setting ++ said after setting :=
  List.filterMap_append

theorem said_self (setting : Setting) (value : setting.kind.Value) :
    said [⟨setting, value⟩] setting = [value] := by
  simp [said]

theorem said_of_ne {argument : Argument} {setting : Setting} (h : argument.1 ≠ setting) :
    said [argument] setting = [] := by
  simp [said, h]

/-- An argument more is put into the choices, behind what was chosen before. -/
theorem chosen_concat {before : List Argument} {argument : Argument}
    (once : argument.1.kind ≠ .texts → said before argument.1 = []) :
    chosen (before ++ [argument]) = (chosen before).put argument.1
      (behind argument.1.kind (chosen before argument.1) argument.2) := by
  rcases argument with ⟨setting, value⟩
  funext s
  by_cases same : setting = s
  · subst same
    rw [Choices.put_self, chosen, said_append, said_self]
    exact together_concat value once
  · rw [Choices.put_of_ne same, chosen, said_append, said_of_ne same, List.append_nil]
    rfl

/-- A word for a value is added to the choices, behind what was chosen before. -/
theorem choose_of_spells {choices : Choices} {setting : Setting} {value : setting.kind.Value}
    {word : String} (spelled : Spells setting.kind value word)
    (free : setting.kind ≠ .texts → choices setting = none) :
    choose choices setting word =
      .ok (choices.put setting (behind setting.kind (choices setting) value)) := by
  have read := (spells_iff.1 spelled).1
  cases setting with
  | origins =>
    simp only [choose, read]
    rfl
  | _ =>
    have none := free (by decide)
    simp only [choose, none, read]
    rfl

/-! ## Words -/

-- No option has an equals sign in it.
theorem equals_notMem_option (setting : Setting) : '=' ∉ setting.option.toList := by
  cases setting <;> decide

-- What stands in front of the first equals sign is the name.
theorem splitEquals_append {name : List Char} (plain : '=' ∉ name) (value : List Char) :
    splitEquals (name ++ '=' :: value) = (String.ofList name, some (String.ofList value)) := by
  have front : ∀ c ∈ name, decide (c ≠ '=') = true := fun c mem =>
    decide_eq_true fun same => plain (same ▸ mem)
  have taken : (name ++ '=' :: value).takeWhile (· ≠ '=') = name := by
    rw [List.takeWhile_append_of_pos front, List.takeWhile_cons_of_neg (by decide), List.append_nil]
  have dropped : (name ++ '=' :: value).dropWhile (· ≠ '=') = '=' :: value := by
    rw [List.dropWhile_append_of_pos front, List.dropWhile_cons_of_neg (by decide)]
  simp only [splitEquals, taken, dropped]

/-- The word of an argument is an option with its value attached. -/
theorem word_of_attached (setting : Setting) (text : String) :
    Word.of ("--" ++ setting.option ++ "=" ++ text) = .option setting.option (some text) := by
  have letters : ("--" ++ setting.option ++ "=" ++ text).toList =
      '-' :: '-' :: (setting.option.toList ++ '=' :: text.toList) := by
    have dashes : "--".toList = ['-', '-'] := rfl
    have equals : "=".toList = ['='] := rfl
    simp only [String.toList_append, dashes, equals, List.cons_append, List.nil_append,
      List.append_assoc]
  have split := splitEquals_append (equals_notMem_option setting) text.toList
  simp only [String.ofList_toList] at split
  -- More than the two dashes is there, so that this is no divider.
  obtain ⟨c, rest, more⟩ : ∃ c rest, setting.option.toList ++ '=' :: text.toList = c :: rest :=
    List.exists_cons_of_ne_nil (List.append_ne_nil_of_right_ne_nil _ (List.cons_ne_nil _ _))
  rw [more] at letters split
  simp only [Word.of, letters, split]

/-- Going through the word of an argument. -/
theorem walk_attached {choices : Choices} {setting : Setting} {text : String} {rest : List String} :
    walk choices none (("--" ++ setting.option ++ "=" ++ text) :: rest) =
      choose choices setting text >>= fun choices => walk choices none rest := by
  rw [walk.eq_def]
  simp only [word_of_attached, Setting.ofOption?_option, settle]
  rfl

/-- Going through the words of arguments makes their choices, behind those of the
    arguments before. -/
theorem walk_arguments {words : List String} {before arguments : List Argument}
    (written : List.Forall₂ Writes words arguments)
    (once : ∀ setting : Setting, setting.kind ≠ .texts →
      (said (before ++ arguments) setting).length ≤ 1) :
    walk (chosen before) none words = .ok (chosen (before ++ arguments)) := by
  induction written generalizing before with
  | nil =>
    rw [List.append_nil]
    rfl
  | @cons word argument words arguments writes _ ih =>
    rcases writes with ⟨text, spelled, rfl⟩
    have next : before ++ argument :: arguments = (before ++ [argument]) ++ arguments :=
      (List.append_cons ..)
    -- What may be said once has not been said before.
    have free : argument.1.kind ≠ .texts → said before argument.1 = [] := by
      intro single
      have short := once argument.1 single
      rw [next, said_append, said_append, said_self, ← List.append_cons] at short
      exact eq_nil_of_length_le_one short
    rw [walk_attached, choose_of_spells spelled, ← chosen_concat free]
    · rw [next] at once ⊢
      exact ih once
    · intro single
      rw [chosen, free single]
      exact together_nil _

/-! ## Asking -/

/-- The choices after something that has choices of its own has been asked for some
    settings. -/
def asked (inherited choices : Choices) (settings : List Setting) : Choices := fun setting =>
  if setting ∈ settings then (choices setting).or (inherited setting) else choices setting

section

variable {inherited choices : Choices} {setting : Setting}

-- What there is nothing to add to stays as it is.
theorem asked_of_settled (settled : (choices setting).or (inherited setting) = choices setting) :
    asked inherited choices [setting] = choices := by
  funext s
  by_cases same : s = setting
  · subst same
    rw [asked, if_pos List.mem_cons_self, settled]
  · rw [asked, if_neg (mt List.mem_singleton.1 same)]

theorem asked_of_open {value : setting.kind.Value} (unset : choices setting = none)
    (speaks : inherited setting = some value) :
    asked inherited choices [setting] = choices.put setting value := by
  funext s
  by_cases same : s = setting
  · subst same
    rw [asked, if_pos List.mem_cons_self, unset, speaks, Choices.put_self, Option.none_or]
  · rw [asked, if_neg (mt List.mem_singleton.1 same), Choices.put_of_ne (Ne.symm same)]

-- Asking twice adds nothing.
theorem asked_cons (rest : List Setting) :
    asked inherited choices (setting :: rest) =
      asked inherited (asked inherited choices [setting]) rest := by
  funext s
  simp only [asked, List.mem_cons, List.not_mem_nil, or_false]
  by_cases same : s = setting
  · subst same
    by_cases later : s ∈ rest
    · simp only [later, true_or, if_true, Option.or_assoc, Option.or_self]
    · simp only [later, true_or, if_true, if_false]
  · simp only [same, false_or, if_false]

/-- Settings that are asked for one by one are all asked for. -/
theorem foldlM_asked {ask : Choices → Setting → Except SettingsFault Choices}
    (one : ∀ choices setting, ask choices setting = .ok (asked inherited choices [setting]))
    (settings : List Setting) (choices : Choices) :
    settings.foldlM ask choices = .ok (asked inherited choices settings) := by
  induction settings generalizing choices with
  | nil =>
    have same : asked inherited choices [] = choices := funext fun _ => if_neg List.not_mem_nil
    rw [same]
    rfl
  | cons setting rest ih =>
    rw [asked_cons, List.foldlM_cons, one]
    exact ih (asked inherited choices [setting])

-- All settings have been asked for in the end.
theorem asked_all (inherited choices : Choices) (setting : Setting) :
    asked inherited choices Setting.all setting = (choices setting).or (inherited setting) := by
  rw [asked, if_pos (Setting.mem_all setting)]

end

/-! ## Environment -/

theorem rel_cases {α β : Type} {r : α → β → Prop} {a? : Option α} {b? : Option β}
    (h : Option.Rel r a? b?) :
    (a? = none ∧ b? = none) ∨ ∃ a b, a? = some a ∧ b? = some b ∧ r a b := by
  cases h with
  | none => exact .inl ⟨rfl, rfl⟩
  | some h => exact .inr ⟨_, _, rfl, rfl, h⟩

/-- The environment is asked for what has not been chosen. -/
theorem consult_eq {environment : Environment} {inherited : Choices}
    (held : ∀ setting : Setting, Option.Rel (fun word value => Spells setting.kind value word)
      (environment setting.variableName) (inherited setting))
    (choices : Choices) (setting : Setting) :
    consult environment choices setting = .ok (asked inherited choices [setting]) := by
  unfold consult
  cases before : choices setting with
  | some value => rw [asked_of_settled (by rw [before, Option.some_or])]
  | none =>
    rcases rel_cases (held setting) with ⟨there, silent⟩ | ⟨word, value, there, speaks, spelled⟩
    · rw [there, asked_of_settled (by rw [before, silent, Option.none_or])]
    · rw [there, asked_of_open before speaks]
      simp only
      rw [choose_of_spells spelled fun _ => before, before, behind_none]

/-! ## Standard -/

/-- What the settings hold. Only the address of a database may be missing. -/
def value (settings : Settings) : (setting : Setting) → Option setting.kind.Value
  | .listenAddress => some settings.listenAddress
  | .databaseUrl => settings.databaseUrl
  | .minConnections => some settings.minConnections
  | .maxConnections => some settings.maxConnections
  | .runMigrations => some settings.runMigrations
  | .origins => some settings.origins
  | .logLevel => some settings.logLevel
  | .logJson => some settings.logJson
  | .gracefulShutdown => some settings.gracefulShutdown

/-- The words of the standard can be read, and what they come to is the standard. -/
theorem together_standardWords (setting : Setting) : ∃ values,
    List.Forall₂ (fun word value => Spells setting.kind value word) setting.standardWords values ∧
      (setting.kind ≠ .texts → values.length ≤ 1) ∧
      together setting.kind values = standard.value setting := by
  cases setting with
  | databaseUrl => exact ⟨[], .nil, fun _ => Nat.zero_le 1, rfl⟩
  | listenAddress =>
    exact ⟨[standard.listenAddress], .cons ⟨rfl, by decide⟩ .nil, fun _ => Nat.le_refl 1, rfl⟩
  | minConnections =>
    exact ⟨[standard.minConnections], .cons (spells_toString (by decide)) .nil,
      fun _ => Nat.le_refl 1, rfl⟩
  | maxConnections =>
    exact ⟨[standard.maxConnections], .cons (spells_toString (by decide)) .nil,
      fun _ => Nat.le_refl 1, rfl⟩
  | runMigrations =>
    exact ⟨[standard.runMigrations], .cons (spells_switch true) .nil, fun _ => Nat.le_refl 1, rfl⟩
  | origins =>
    -- Every origin is a word, and stands for the list of itself.
    exact ⟨standardOrigins.map ([·]), .cons ⟨rfl, by decide, by decide⟩
      (.cons ⟨rfl, by decide, by decide⟩ .nil), fun h => absurd rfl h, rfl⟩
  | logLevel =>
    exact ⟨[standard.logLevel], .cons ⟨rfl, by decide⟩ .nil, fun _ => Nat.le_refl 1, rfl⟩
  | logJson =>
    exact ⟨[standard.logJson], .cons (spells_switch false) .nil, fun _ => Nat.le_refl 1, rfl⟩
  | gracefulShutdown =>
    exact ⟨[standard.gracefulShutdown], .cons (spells_switch true) .nil,
      fun _ => Nat.le_refl 1, rfl⟩

/-- Words for values of one setting choose what the values come to, behind the values
    that have been chosen before. -/
theorem foldlM_choose {setting : Setting} {words : List String}
    {values : List setting.kind.Value}
    (spelled : List.Forall₂ (fun word value => Spells setting.kind value word) words values) :
    ∀ {choices : Choices} {before : List setting.kind.Value},
      choices setting = together setting.kind before →
      (setting.kind ≠ .texts → (before ++ values).length ≤ 1) →
      ∃ chosen : Choices,
        words.foldlM (fun choices word => choose choices setting word) choices = .ok chosen ∧
        chosen setting = together setting.kind (before ++ values) ∧
        ∀ s, setting ≠ s → chosen s = choices s := by
  induction spelled with
  | nil =>
    intro choices before here _
    rw [List.append_nil]
    exact ⟨choices, rfl, here, fun _ _ => rfl⟩
  | @cons word value words values spells _ ih =>
    intro choices before here once
    -- What may be said once has not been said before.
    have free : setting.kind ≠ .texts → before = [] := fun single =>
      eq_nil_of_length_le_one (once single)
    have unset : setting.kind ≠ .texts → choices setting = none := by
      intro single
      rw [here, free single]
      exact together_nil _
    have next : before ++ value :: values = (before ++ [value]) ++ values := List.append_cons ..
    rw [next] at once ⊢
    rw [List.foldlM_cons, choose_of_spells spells unset, here]
    rcases ih ((Choices.put_self ..).trans (together_concat value free).symm) once with
      ⟨chosen, read, holds, others⟩
    exact ⟨chosen, read, holds, fun s differs => (others s differs).trans (Choices.put_of_ne differs)⟩

/-- The standard is chosen for what has not been chosen. -/
theorem supply_eq (choices : Choices) (setting : Setting) :
    supply choices setting = .ok (asked standard.value choices [setting]) := by
  unfold supply
  cases before : choices setting with
  | some value =>
    rw [Option.isSome_some, if_pos rfl, asked_of_settled (by rw [before, Option.some_or])]
  | none =>
    rcases together_standardWords setting with ⟨values, spelled, once, comes⟩
    have nothing : choices setting = together setting.kind [] := before.trans (together_nil _).symm
    rcases foldlM_choose spelled nothing once with ⟨chosen, read, holds, others⟩
    rw [Option.isSome_none, if_neg Bool.false_ne_true, read]
    refine congrArg Except.ok (funext fun s => ?_)
    by_cases same : s = setting
    · subst same
      rw [asked, if_pos List.mem_cons_self, before, Option.none_or, holds]
      exact comes
    · rw [asked, if_neg (mt List.mem_singleton.1 same), others s (Ne.symm same)]

/-! ## Settings -/

/-- If all settings have been chosen, or all but that of a database, the settings hold
    what has been chosen. -/
theorem ofChoices_eq_ok {choices : Choices}
    (full : ∀ setting : Setting, setting ≠ .databaseUrl → (choices setting).isSome = true) :
    ∃ settings, ofChoices choices = .ok settings ∧
      ∀ setting, settings.value setting = choices setting := by
  have there (setting : Setting) (needed : setting ≠ .databaseUrl) :
      ∃ value, choices setting = some value := Option.isSome_iff_exists.1 (full setting needed)
  rcases there .listenAddress (by decide) with ⟨listenAddress, h1⟩
  rcases there .minConnections (by decide) with ⟨minConnections, h2⟩
  rcases there .maxConnections (by decide) with ⟨maxConnections, h3⟩
  rcases there .runMigrations (by decide) with ⟨runMigrations, h4⟩
  rcases there .origins (by decide) with ⟨origins, h5⟩
  rcases there .logLevel (by decide) with ⟨logLevel, h6⟩
  rcases there .logJson (by decide) with ⟨logJson, h7⟩
  rcases there .gracefulShutdown (by decide) with ⟨gracefulShutdown, h8⟩
  refine ⟨⟨listenAddress, choices .databaseUrl, minConnections, maxConnections, runMigrations,
    origins, logLevel, logJson, gracefulShutdown⟩, ?_, fun setting => ?_⟩
  · simp only [ofChoices, need, h1, h2, h3, h4, h5, h6, h7, h8]
    rfl
  · cases setting with
    | databaseUrl => rfl
    | _ => exact Eq.symm (by assumption)

/-- Settings that hold the same are the same. -/
theorem ext_value {a b : Settings} (same : ∀ setting, a.value setting = b.value setting) :
    a = b := by
  rcases a with ⟨_, _, _, _, _, _, _, _, _⟩
  rcases b with ⟨_, _, _, _, _, _, _, _, _⟩
  simp only [mk.injEq]
  exact ⟨Option.some.inj (same .listenAddress), same .databaseUrl,
    Option.some.inj (same .minConnections), Option.some.inj (same .maxConnections),
    Option.some.inj (same .runMigrations), Option.some.inj (same .origins),
    Option.some.inj (same .logLevel), Option.some.inj (same .logJson),
    Option.some.inj (same .gracefulShutdown)⟩

/-- Every number of thirty-two bits and both switches have a word.

    Whatever words the arguments `--option=value` have for their values, in whatever
    order they come, and whatever words the environment has: if no setting but the
    origins is given by two arguments, the settings are read. Each of them holds what
    the arguments say, for the origins their lists one behind the other; without an
    argument what the environment says; and else the standard. -/
theorem settings_precedence :
    (∀ n : Nat, n ≤ 4294967295 → Spells .number n (toString n)) ∧
    (∀ b : Bool, Spells .switch b (toString b)) ∧
    ∀ (environment : Environment) (words : List String) (arguments : List Argument)
      (inherited : Choices),
      List.Forall₂ Writes words arguments →
      (∀ setting : Setting, setting.kind ≠ .texts → (said arguments setting).length ≤ 1) →
      (∀ setting : Setting, Option.Rel (fun word value => Spells setting.kind value word)
        (environment setting.variableName) (inherited setting)) →
      ∃ settings, readSettings environment words = .ok settings ∧
        ∀ setting : Setting, settings.value setting =
          (together setting.kind (said arguments setting)).or
            ((inherited setting).or (standard.value setting)) := by
  refine ⟨fun n small => spells_toString small, spells_switch, ?_⟩
  intro environment words arguments inherited written once held
  have walked : walk Choices.empty none words = .ok (chosen arguments) := by
    have start : chosen [] = Choices.empty := funext fun setting => together_nil setting.kind
    rw [← start]
    exact walk_arguments written once
  let inheriting := asked inherited (chosen arguments) Setting.all
  let supplied := asked standard.value inheriting Setting.all
  have holds (setting : Setting) : supplied setting =
      (together setting.kind (said arguments setting)).or
        ((inherited setting).or (standard.value setting)) := by
    simp only [supplied, inheriting, asked_all, Option.or_assoc]
    rfl
  have full : ∀ setting : Setting, setting ≠ .databaseUrl → (supplied setting).isSome = true := by
    intro setting needed
    have standing : (standard.value setting).isSome = true := by
      cases setting with
      | databaseUrl => exact absurd rfl needed
      | _ => rfl
    rw [holds, Option.isSome_or, Option.isSome_or, standing, Bool.or_true, Bool.or_true]
  rcases ofChoices_eq_ok full with ⟨settings, made, same⟩
  refine ⟨settings, ?_, fun setting => (same setting).trans (holds setting)⟩
  unfold readSettings
  rw [walked]
  simp only [bind, Except.bind, foldlM_asked (consult_eq held), foldlM_asked supply_eq]
  exact made

-- Origins in two arguments with a number between them, and an environment that has
-- something to say about the origins, the number and the level of the log.
theorem settings_precedence_origins :
    let words := ["--cors-origins=a,b", "--db-max-connections=+007", "--cors-origins=c"]
    let environment : Environment := fun name =>
      if name = "EXPENSE_RULES_CORS_ORIGINS" then some "d"
      else if name = "EXPENSE_RULES_DB_MAX_CONNECTIONS" then some "3"
      else if name = "RUST_LOG" then some "debug"
      else if name = "PATH" then some ""
      else none
    readSettings environment words = .ok { standard with
      origins := ["a", "b", "c"], maxConnections := 7, logLevel := "debug" } := by
  intro words environment
  let arguments : List Argument :=
    [⟨.origins, ["a", "b"]⟩, ⟨.maxConnections, (7 : Nat)⟩, ⟨.origins, ["c"]⟩]
  let inherited : Choices := fun
    | .origins => some ["d"]
    | .maxConnections => some (3 : Nat)
    | .logLevel => some "debug"
    | _ => none
  have seven : Spells .number (7 : Nat) "+007" := by
    have digits : ['0', '0', '7'].all Decimal.isDigit = true := by decide
    exact ⟨.plus ⟨List.cons_ne_nil _ _, List.all_eq_true.1 digits⟩, by decide⟩
  have written : List.Forall₂ Writes words arguments :=
    .cons ⟨"a,b", ⟨rfl, by decide, by decide⟩, rfl⟩
      (.cons ⟨"+007", seven, rfl⟩ (.cons ⟨"c", ⟨rfl, by decide, by decide⟩, rfl⟩ .nil))
  have once : ∀ setting : Setting, setting.kind ≠ .texts → (said arguments setting).length ≤ 1 := by
    intro setting
    cases setting <;> decide
  have held : ∀ setting : Setting, Option.Rel (fun word value => Spells setting.kind value word)
      (environment setting.variableName) (inherited setting) := by
    intro setting
    cases setting with
    | origins => exact .some ⟨rfl, by decide, by decide⟩
    | maxConnections => exact .some (settings_precedence.1 3 (by decide))
    | logLevel => exact .some ⟨rfl, by decide⟩
    | _ => exact .none
  rcases settings_precedence.2.2 environment words arguments inherited written once held with
    ⟨settings, read, holds⟩
  rw [read]
  refine congrArg Except.ok (ext_value fun setting => (holds setting).trans ?_)
  cases setting <;> rfl

end Settings

end Rulebook

import Rulebook.Decimal.Integer
import Rulebook.Log
import Rulebook.Log.Pattern
import Rulebook.Text.Blank
import Rulebook.Text.Cut
import Rulebook.Text.Letter

/-!
# Log Filters

Which events are worth a line is set by directives, with commas between them. A
directive names a level, or a target and the level up to which the events of it
and of all beneath it are let through. A directive may also ask for a detail by
name. The narrowest directive decides. Directives about spans, or about the
value of a detail, are legal and have no say here, because nothing is said
inside a span.

The parts of a directive are found in its text without the blanks at both ends,
but taken from the text with them. So blanks in front move all parts, and may
even make a cut go through a character, which breaks the reading off.

## Main definitions

* `Directive`, `Directive.read`: Single directives.
* `Filter`, `Filter.ofDirectives`: The directives in force.
* `Filter.allows`: Whether an event is let through.
* `Filter.strict`, `Filter.lenient`: Reading a list that has to be free of
  faults, or may have some.

## Theorems

* `allows_fallback`: Without a directive only errors are let through.
-/

namespace Rulebook
namespace Log

/-- The highest rank that is let through; zero lets nothing through. -/
abbrev Threshold := Nat

/-- Why a directive is refused. -/
inductive DirectiveFault where
  | badForm
  | badLevel
  | badPattern (fault : PatternFault)
  /-- A part of the directive starts or ends inside a character. -/
  | torn (cut : Text.Torn)
  deriving DecidableEq, Repr

/-- The wording of a refusal. -/
def DirectiveFault.message : DirectiveFault → String
  | .badForm => "invalid filter directive"
  | .badLevel =>
    "error parsing level filter: expected one of \"off\", \"error\", \"warn\", \"info\", " ++
      "\"debug\", \"trace\", or a number 0-5"
  | .badPattern fault => "invalid field filter: " ++ fault.message
  | .torn cut => cut.message

/-- The names of the thresholds. -/
def thresholdNames : List (String × Threshold) :=
  [("error", 1), ("warn", 2), ("info", 3), ("debug", 4), ("trace", 5), ("off", 0)]

/-- The threshold that a word names, in letters of either case, or by number. -/
def threshold? (word : List Char) : Option Threshold :=
  match Decimal.readInteger 0 5 word with
  | .ok n => some n.toNat
  | .error _ =>
    if word = [] then some 1
    else thresholdNames.lookup (String.ofList (word.map Char.toLower))

/-- A directive about targets; without a target it is about all of them. -/
structure Directive where
  target : Option String
  threshold : Threshold
  /-- A detail that an event has to have. -/
  detail : Option String := none
  /-- Whether the directive is about spans. -/
  inSpan : Bool := false
  deriving DecidableEq, Repr

namespace Directive

/-- Lets everything through. -/
def everything : Threshold := 5

/-- A part of a directive that is cut out of its text. -/
def part (start stop : Nat) (whole : List Char) : Except DirectiveFault (List Char) :=
  (Text.slice start stop whole).mapError .torn

/-- The last part of a directive. -/
def lastPart (start : Nat) (whole : List Char) : Except DirectiveFault (List Char) :=
  (Text.sliceFrom start whole).mapError .torn

/-- Whether a directive about targets may start with a character. -/
def mayStart (c : Char) : Bool :=
  c = '-' || c = ':' || c = '_' || Text.isLetterOrNumber c

/-- The directive that a word with neither level nor span behind it makes up. -/
def ofWord (word : List Char) : Directive :=
  match threshold? word with
  | some threshold => { target := none, threshold }
  | none => { target := some (String.ofList word), threshold := everything }

/-- The threshold behind an equals sign; nothing means everything. -/
def readThreshold (word : List Char) : Except DirectiveFault Threshold :=
  if word = [] then .ok everything
  else
    match threshold? word with
    | some threshold => .ok threshold
    | none => .error .badLevel

/-- Whether a value that a detail is compared with is a pattern that can be
    used. -/
def checkValue (value : List Char) : Except DirectiveFault Unit :=
  if isSignedNumber value then .ok () else (checkPattern value).mapError .badPattern

/-- Takes note of what stands in braces: the name of a detail, or a name and a
    value to compare with, which is a matter of spans. -/
def readDetail (d : Directive) (text : List Char) : Except DirectiveFault Directive :=
  let name := text.takeWhile (· ≠ '=')
  match text.drop name.length with
  | _ :: value => do
    checkValue (value.takeWhile (· ≠ '='))
    .ok { d with inSpan := true }
  | [] => if text = [] then .error .badForm else .ok { d with detail := some (String.ofList text) }

/-- How far a directive has been read, and where the part in reading starts. -/
inductive Stage where
  | start
  /-- In a level or a target. -/
  | word
  | span (start : Nat)
  | detail (start : Nat)
  /-- Behind the braces around a detail. -/
  | closing
  /-- Behind the brackets around a span. -/
  | behind
  | level (start : Nat)
  deriving DecidableEq, Repr

/-- The target that stands in front of a place. -/
def withTarget (whole : List Char) (place : Nat) (d : Directive) :
    Except DirectiveFault Directive := do
  .ok { d with target := some (String.ofList (← part 0 place whole)) }

/-- Reads the character at a place. -/
def step (whole : List Char) (place : Nat) (c : Char) (d : Directive) :
    Stage → Except DirectiveFault (Stage × Directive)
  | .start =>
    if c = '[' then .ok (.span (place + 1), d)
    else if mayStart c then .ok (.word, d)
    else .error .badForm
  | .word =>
    if c = '=' then do .ok (.level (place + 1), ← withTarget whole place d)
    else if c = '[' then do .ok (.span (place + 1), ← withTarget whole place d)
    else .ok (.word, d)
  | .span start =>
    if c = ']' then do
      let _ ← part start place whole
      .ok (.behind, { d with inSpan := true })
    else if c = '{' then do
      let name ← part start place whole
      .ok (.detail (place + 1), { d with inSpan := !name.isEmpty })
    else .ok (.span start, d)
  | .detail start =>
    if c = '}' then do .ok (.closing, ← readDetail d (← part start place whole))
    else .ok (.detail start, d)
  | .closing => if c = ']' then .ok (.behind, d) else .error .badForm
  | .behind => if c = '=' then .ok (.level (place + 1), d) else .error .badForm
  | .level start => .ok (.level start, d)

/-- What a directive is when its text ends. -/
def finish (whole : List Char) (d : Directive) : Stage → Except DirectiveFault Directive
  | .word => .ok (ofWord whole)
  | .behind => .ok d
  | .level start => do .ok { d with threshold := ← readThreshold (← lastPart start whole) }
  | .start | .span _ | .detail _ | .closing => .error .badForm

/-- Reads a directive from a place on. -/
def readFrom (whole : List Char) (place : Nat) (stage : Stage) (d : Directive) :
    List Char → Except DirectiveFault Directive
  | [] => finish whole d stage
  | c :: rest => do
    let (stage, d) ← step whole place c d stage
    readFrom whole (place + c.utf8Size) stage d rest

/-- Reads a directive. -/
def read (s : String) : Except DirectiveFault Directive :=
  readFrom s.toList 0 .start { target := none, threshold := everything } (Text.trim s.toList)

/-- Whether a directive is about an event. -/
def covers (d : Directive) (event : Event) : Bool :=
  let hasTarget : Bool :=
    match d.target with
    | some t => t.toList.isPrefixOf event.target.toList
    | none => true
  let hasDetail : Bool :=
    match d.detail with
    | some name => name = "message" || event.details.any (·.1 = name)
    | none => true
  !d.inSpan && hasTarget && hasDetail

/-- Whether a directive yields to another one: to one with a longer target, none
    being shortest, or else to one that asks for a detail, or else to one that
    asks for a detail whose name comes later in the order of words. Among the
    directives about one event, no two have different targets of one length. -/
def yieldsTo (d other : Directive) : Bool :=
  let targetLength (d : Directive) : Nat := (d.target.map (·.utf8ByteSize + 1)).getD 0
  if targetLength d ≠ targetLength other then targetLength d < targetLength other
  else
    match d.detail, other.detail with
    | none, some _ => true
    | some name, some otherName => name < otherName
    | _, none => false

end Directive

/-- The directives in force. -/
structure Filter where
  directives : List Directive
  deriving DecidableEq, Repr

namespace Filter

/-- The directives in force when none was given: errors are let through. -/
def fallback : Filter := ⟨[{ target := none, threshold := 1 }]⟩

/-- The filter of some directives. -/
def ofDirectives (directives : List Directive) : Filter :=
  if directives.isEmpty then fallback else ⟨directives⟩

/-- Of two directives the one that does not yield; of two equal ones the later. -/
def narrower (best : Option Directive) (d : Directive) : Option Directive :=
  match best with
  | some b => if d.yieldsTo b then some b else some d
  | none => some d

/-- The threshold for an event. -/
def thresholdFor (filter : Filter) (event : Event) : Threshold :=
  match (filter.directives.filter (·.covers event)).foldl narrower none with
  | some d => d.threshold
  | none => 0

/-- Whether an event is let through. -/
def allows (filter : Filter) (event : Event) : Bool :=
  event.level.rank ≤ filter.thresholdFor event

/-- The words of a list of directives. -/
def words (s : String) : List String :=
  (s.splitOn ",").filter (!·.isEmpty)

/-- The filter of a list, if the list has no faults. -/
def strict (s : String) : Except Text.Torn (Option Filter) :=
  match (words s).mapM Directive.read with
  | .ok directives => .ok (some (ofDirectives directives))
  | .error (.torn torn) => .error torn
  | .error _ => .ok none

/-- The complaint about a directive that is left out. -/
def complaint (word : String) (fault : DirectiveFault) : String :=
  "ignoring `" ++ word ++ "`: " ++ fault.message

/-- The directives of some words, and the complaints about what was left out. -/
def readAll : List String → Except Text.Torn (List Directive × List String)
  | [] => .ok ([], [])
  | word :: rest =>
    match Directive.read word with
    | .error (.torn torn) => .error torn
    | .ok d => do
      let (directives, complaints) ← readAll rest
      .ok (d :: directives, complaints)
    | .error fault => do
      let (directives, complaints) ← readAll rest
      .ok (directives, complaint word fault :: complaints)

/-- The filter of a list, and the complaints about what was left out of it. -/
def lenient (s : String) : Except Text.Torn (Filter × List String) := do
  let (directives, complaints) ← readAll (words s)
  .ok (ofDirectives directives, complaints)

/-- Without a directive only errors are let through. -/
theorem allows_fallback (event : Event) :
    fallback.allows event = true ↔ event.level = .error := by
  cases event with
  | mk level target message details =>
    cases level <;> simp [allows, fallback, thresholdFor, narrower, Directive.covers, Level.rank]

end Filter

end Log
end Rulebook

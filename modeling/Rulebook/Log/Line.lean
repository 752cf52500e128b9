import Rulebook.Json
import Rulebook.Log
import Rulebook.Text.Quoted

/-!
# Log Lines

An event is written on one line, either for people, with its details behind the
message, or as a JSON object, with the message among its details.

## Main definitions

* `Event.line`: An event for people.
* `Event.toJson`: An event as a value.
-/

namespace Rulebook
namespace Log

/-- The value of a detail in a line for people. -/
def Detail.inLine : Detail → String
  | .quoted s => Text.quoted s
  | detail => detail.text

/-- A detail as a value. -/
def Detail.toJson : Detail → Json
  | .shown s | .quoted s => .text s
  | .number n => .int n
  | .flag b => .bool b

/-- An event for people. -/
def Event.line (event : Event) : String :=
  event.level.name ++ " " ++ event.target ++ ": " ++ event.message ++
    "".intercalate (event.details.map fun (name, detail) => " " ++ name ++ "=" ++ detail.inLine)

/-- An event as a value. -/
def Event.toJson (event : Event) : Json :=
  .object
    [("level", .text event.level.name),
     ("fields", .object (("message", .text event.message) ::
       event.details.map fun (name, detail) => (name, detail.toJson))),
     ("target", .text event.target)]

end Log
end Rulebook

import Rulebook.Http.Message
import Rulebook.Http.Percent
import Rulebook.Rule

/-!
# Routes

The paths that the service answers on, and the methods that each of them takes.
A path is matched as it was sent; only the last part of the path of a rule is
decoded, and only after it has been matched, so that an encoded slash stays
inside an identifier.

## Main definitions

* `Route`, `Route.ofPath?`: Known paths.
* `Action`, `Route.action?`: What a method asks for on a route.
* `Route.methods`: The methods that a route takes.
* `ruleId?`: The identifier that a part of a path stands for.

## Theorems

* `isSome_action?_iff`: A route answers exactly the methods it takes.
-/

namespace Rulebook
namespace Service

open Text (Octets octets)

/-- The known paths. -/
inductive Route where
  | health
  | ready
  | rules
  /-- The path of a rule, with its last part as it was sent. -/
  | rule (segment : Octets)
  | metrics
  deriving DecidableEq

/-- What can be asked on a route. -/
inductive Action where
  | health
  | ready
  | metrics
  | list
  | create
  | get (segment : Octets)
  | update (segment : Octets)
  | delete (segment : Octets)
  deriving DecidableEq

/-- The methods that can be asked with. -/
inductive Method where
  | get
  | post
  | put
  | delete
  deriving DecidableEq, Repr

namespace Route

/-- The path of the rules. -/
def rulesPath : Octets := octets "/api/rules"

/-- The last part of the path of a rule. -/
def segment? (path : Octets) : Option Octets :=
  let start := rulesPath ++ octets "/"
  let segment := path.drop start.length
  if start.isPrefixOf path && !segment.isEmpty && !segment.contains 0x2F then some segment
  else none

/-- The route of a path, if it is known. -/
def ofPath? (path : Octets) : Option Route :=
  if path = octets "/api/health" then some .health
  else if path = octets "/api/ready" then some .ready
  else if path = rulesPath then some .rules
  else if path = octets "/metrics" then some .metrics
  else (segment? path).map .rule

/-- The methods that a route takes. -/
def methods : Route → List Method
  | .health | .ready | .metrics => [.get]
  | .rules => [.get, .post]
  | .rule _ => [.get, .put, .delete]

/-- What a method asks for on a route. -/
def action? : Route → Method → Option Action
  | .health, .get => some .health
  | .ready, .get => some .ready
  | .metrics, .get => some .metrics
  | .rules, .get => some .list
  | .rules, .post => some .create
  | .rule segment, .get => some (.get segment)
  | .rule segment, .put => some (.update segment)
  | .rule segment, .delete => some (.delete segment)
  | _, _ => none

/-- A route answers exactly the methods it takes. -/
theorem isSome_action?_iff (route : Route) (method : Method) :
    (route.action? method).isSome = true ↔ method ∈ route.methods := by
  cases route <;> cases method <;> simp [action?, methods]

end Route

namespace Method

/-- The names that a method goes by in the list of those that are allowed: where
    a thing can be had, its head can be had too. -/
def names : Method → List String
  | .get => ["GET", "HEAD"]
  | .post => ["POST"]
  | .put => ["PUT"]
  | .delete => ["DELETE"]

/-- The method that a name asks with; asking for a head asks for the thing. -/
def ofName? (name : String) : Option Method :=
  [Method.get, .post, .put, .delete].find? (·.names.contains name)

-- A method goes by its names.
theorem ofName?_of_mem_names {method : Method} {name : String} (h : name ∈ method.names) :
    ofName? name = some method := by
  cases method <;> simp [names] at h
  · rcases h with rfl | rfl <;> decide
  all_goals subst h; decide

end Method

/-- The names of the methods that a route takes. -/
def Route.allow (route : Route) : String × Octets :=
  ("allow", octets (",".intercalate (route.methods.flatMap Method.names)))

/-- The identifier that a part of a path stands for, unless it is not UTF-8. -/
def ruleId? (segment : Octets) : Option RuleId :=
  (Text.ofOctets? (Http.percentDecode segment)).map RuleId.mk

end Service
end Rulebook

import Rulebook.Http.Message
import Rulebook.Text.Blank

/-!
# Origins

Pages of other origins may use the service if their origin is on a configured
list. Credentials are allowed, and therefore nothing is granted wholesale: the
origin, the methods and the headers that a page asks for are named back to it
one by one, and an asterisk on the list is not a legal entry.

## Main definitions

* `Origins`: The origins that are let in.
* `OriginFault`: Why a list is refused, with `OriginFault.message`.
* `Origins.ofList?`: The origins that a configured list names.
* `Origins.grant`: What any answer grants to the page that asked.
* `Origins.preflight`: The answer to a page that asks before it acts.

## Theorems

* `pass_of_not_mem`: An origin that is not on the list is granted no pass.
-/

namespace Rulebook

open Text (Octets octets)
open Http (Headers Request Response)

/-- The origins that are let in. -/
structure Origins where
  allowed : List Octets
  deriving DecidableEq

/-- Why a list of origins is refused. -/
inductive OriginFault where
  /-- An entry cannot be the value of a header. -/
  | badValue
  /-- An entry is an asterisk. This is no refusal that can be answered: the
      service stops. -/
  | wildcard
  deriving DecidableEq, Repr

/-- The wording of a refusal. -/
def OriginFault.message : OriginFault → String
  | .badValue => Http.badValueMessage
  | .wildcard =>
    "Wildcard origin (`*`) cannot be passed to `AllowOrigin::list`. " ++
      "Use `AllowOrigin::any()` instead"

namespace Origins

/-- An entry of the list, without the blanks at its ends. -/
def entry (s : String) : Octets :=
  octets (String.ofList (Text.trim s.toList))

/-- The origins that a configured list names. -/
def ofList? (entries : List String) : Except OriginFault Origins :=
  let allowed := entries.map entry
  if !allowed.all Http.isHeaderValue then .error .badValue
  else if allowed.contains (octets "*") then .error .wildcard
  else .ok { allowed }

/-- What every answer to a page of another origin may depend on. -/
def vary : String × Octets :=
  ("vary", octets "origin, access-control-request-method, access-control-request-headers")

/-- The pass of the page that sent a request, if its origin is on the list. -/
def pass (origins : Origins) (request : Request) : Headers :=
  match request.header? "origin" with
  | some origin =>
    if origins.allowed.contains origin then [("access-control-allow-origin", origin)] else []
  | none => []

/-- What any answer grants to the page that asked. -/
def grant (origins : Origins) (request : Request) : Headers :=
  ("access-control-allow-credentials", octets "true") :: vary :: origins.pass request

/-- A header of a request, under the name that grants what it asks for. -/
def granted (request : Request) (asked name : String) : Headers :=
  match request.header? asked with
  | some value => [(name, value)]
  | none => []

/-- The answer to a page that asks before it acts. -/
def preflight (origins : Origins) (request : Request) : Response :=
  (Response.bare 200).adding (origins.grant request ++
    granted request "access-control-request-method" "access-control-allow-methods" ++
    granted request "access-control-request-headers" "access-control-allow-headers")

/-- The header that pages may look at beside the usual ones. -/
def exposed : String × Octets :=
  ("access-control-expose-headers", octets "content-disposition")

/-- An answer to a request, with what it grants to the page that asked. -/
def sign (origins : Origins) (request : Request) (response : Response) : Response :=
  response.adding (exposed :: origins.grant request)

/-- An origin that is not on the list is granted no pass. -/
theorem pass_of_not_mem {origins : Origins} {request : Request}
    (h : ∀ origin, request.header? "origin" = some origin → origin ∉ origins.allowed) :
    origins.pass request = [] := by
  unfold pass
  split
  · rename_i origin heq
    rw [if_neg]
    simpa using h origin heq
  · rfl

end Origins
end Rulebook

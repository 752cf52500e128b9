import Rulebook.Http.MediaType
import Rulebook.Http.Message
import Rulebook.Problem
import Rulebook.Record.Reader

/-!
# Payloads

What a caller sends to file or replace a rule. A payload is refused for its
media type, then for its size, then for its text, then for the draft it holds,
and never because of anything that is kept. Text behind the draft is not looked
at.

## Main definitions

* `PayloadFault`: Why a payload is refused, with `PayloadFault.message`.
* `readDraft`: The draft that a request holds.
* `payload`: The fields that a request holds.

## Theorems

* `payload_congr`: Two requests with the same type and body hold the same.
-/

namespace Rulebook
namespace Service

open Http (MediaType Request)
open Text (Octets)

/-- Why a payload is refused before it is looked at as a draft. -/
inductive PayloadFault where
  | notJson
  | tooLarge
  | text (fault : Json.Fault) (body : Octets)

/-- A fault with the member it arose in and its place. -/
def located (fault : Json.Fault) (body : Octets) : String :=
  match fault.member with
  | some member => member ++ ": " ++ fault.describe body
  | none => fault.describe body

/-- The wording of a refusal. -/
def PayloadFault.message : PayloadFault → String
  | .notJson => "Expected request with `Content-Type: application/json`"
  | .tooLarge => "Failed to buffer the request body: length limit exceeded"
  | .text fault body =>
    (if fault.cause.isData then "Failed to deserialize the JSON body into the target type: "
      else "Failed to parse the request body as JSON: ") ++ located fault body

/-- The longest body, in octets. -/
def longestBody : Nat := 2097152

/-- Whether a request says that its body is JSON. -/
def saysJson (request : Request) : Bool :=
  match request.header? "content-type" >>= MediaType.read? with
  | some type => type.isJson
  | none => false

/-- The draft that a request holds. -/
def readDraft (request : Request) : Except PayloadFault Draft :=
  if !saysJson request then .error .notJson
  else if longestBody < request.body.length then .error .tooLarge
  else
    match Record.readRecord Draft.shape request.body with
    | .ok (draft, _) => .ok draft
    | .error fault => .error (.text fault request.body)

/-- The fields that a request holds. -/
def payload (request : Request) : Except Problem Fields :=
  match readDraft request with
  | .error fault => .error (.invalid fault.message)
  | .ok draft =>
    match draft.accept with
    | .error fault => .error (.invalid fault.message)
    | .ok fields => .ok fields

/-- Two requests with the same type and body hold the same payload. -/
theorem payload_congr {a b : Request} (ht : a.header? "content-type" = b.header? "content-type")
    (hb : a.body = b.body) : payload a = payload b := by
  simp [payload, readDraft, saysJson, ht, hb]

end Service
end Rulebook

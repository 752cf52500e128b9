import Rulebook.Http.Target
import Rulebook.Json
import Rulebook.Log

/-!
# Requests and Responses

A request is put together from a method, a target, headers and a body, and each
of these may be refused before anyone is asked. Of several faults the first
counts, in this order.

## Main definitions

* `Request`, `Request.of?`: Well-formed requests.
* `RequestFault`: Why a request is refused, with `RequestFault.message`.
* `Request.header?`: The first header with a name.
* `Response`: An answer, with `Response.ofJson`, `Response.plain`,
  `Response.bare`.
* `Response.withoutBody`: An answer of which only the head is sent.
-/

namespace Rulebook
namespace Http

open Text (Octets octets)

/-- The headers of a message: small names with their values, in order. -/
abbrev Headers := List (String × Octets)

/-- A request. -/
structure Request where
  method : String
  path : Octets
  headers : Headers
  body : Octets
  deriving DecidableEq

/-- Why a request cannot be put together. -/
inductive RequestFault where
  | badMethod
  | badTarget (fault : TargetFault)
  | badName
  | badValue
  deriving DecidableEq, Repr

/-- The wording of the refusal of a value. -/
def badValueMessage : String := "failed to parse header value"

/-- The wording of a refusal. -/
def RequestFault.message : RequestFault → String
  | .badMethod => "invalid HTTP method"
  | .badTarget fault => fault.message
  | .badName => "invalid HTTP header name"
  | .badValue => badValueMessage

/-- The longest name of a header. -/
def longestName : Nat := 65535

namespace Request

/-- A header whose name is a token, with the name in small letters. -/
def header (name : String) (value : Octets) : Except RequestFault (String × Octets) :=
  if !isToken (octets name) || longestName < (octets name).length then .error .badName
  else if !isHeaderValue value then .error .badValue
  else .ok (name.map Char.toLower, value)

/-- The request with the given parts. -/
def of? (method target : String) (headers : Headers) (body : Octets) :
    Except RequestFault Request := do
  if !isToken (octets method) then .error .badMethod
  else
    let path ←
      match readTarget (octets target) with
      | .ok path => .ok path
      | .error fault => .error (.badTarget fault)
    let headers ← headers.mapM fun (name, value) => header name value
    .ok { method, path, headers, body }

/-- The value of the first header with a name. -/
def header? (request : Request) (name : String) : Option Octets :=
  request.headers.lookup name

end Request

/-- An answer. -/
structure Response where
  status : Nat
  headers : Headers
  body : String
  deriving DecidableEq

namespace Response

/-- The header that says what a body is. -/
def contentType (mediaType : String) : String × Octets :=
  ("content-type", octets mediaType)

/-- An answer without a body. -/
def bare (status : Nat) : Response :=
  { status, headers := [], body := "" }

/-- An answer that is a line of text. -/
def plain (status : Nat) (text : String) : Response :=
  { status, headers := [contentType "text/plain; charset=utf-8"], body := text }

/-- An answer that is a JSON value. -/
def ofJson (status : Nat) (v : Json) : Response :=
  { status, headers := [contentType "application/json"], body := v.compact }

/-- An answer of which only the head is sent. -/
def withoutBody (response : Response) : Response :=
  { response with body := "" }

/-- An answer with further headers. -/
def adding (response : Response) (headers : Headers) : Response :=
  { response with headers := response.headers ++ headers }

end Response

end Http
end Rulebook

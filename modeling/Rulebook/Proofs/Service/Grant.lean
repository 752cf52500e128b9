import Rulebook.Proofs.Service.Inquiry

/-!
# What an Answer Carries

An answer is put together in two layers. What is done about a request says what its
body is, and a request for nothing that is known is told at most which methods are
taken. Around that, in every answer, stands what the page that asked is granted. No
name of a header occurs in both layers, so each can be read off an answer as if the
other were not there.

Of the headers of a request only the first with a name counts, and it does not matter
which headers with other names stand between.

## Main definitions

* `Headers.values`: The values under a name.
* `standing`: The names under which every answer says the same.

## Theorems

* `values_filter`: Headers that are left out do not count for other names.
* `header?_eq_head?`: The header that counts is the first value under its name.
* `values_pass`: The pass of a page is its origin, if the origin is let in.
* `values_sign`: A signed answer holds what was found, and the pass.
* `values_preflight`: A page that asks before it acts is granted what it asks for.
* `headers_act`: What is found is a body and says so.
* `passes_handle`: The passes of an answer are those that the origins give.
-/

namespace Rulebook

open Http (Headers Request Response)

/-- The values under a name, in order. -/
def Http.Headers.values (headers : Headers) (name : String) : List Text.Octets :=
  headers.filterMap fun header => if header.1 = name then some header.2 else none

namespace Http

theorem Headers.values_append (first last : Headers) (name : String) :
    Headers.values (first ++ last) name = first.values name ++ last.values name :=
  List.filterMap_append

@[simp] theorem Headers.values_nil (name : String) : Headers.values [] name = [] :=
  rfl

theorem Headers.values_cons (header : String × Text.Octets) (rest : Headers) (name : String) :
    Headers.values (header :: rest) name =
      (if header.1 = name then [header.2] else []) ++ rest.values name := by
  unfold Headers.values
  rw [List.filterMap_cons]
  by_cases h : header.1 = name
  · rw [if_pos h, if_pos h]
    rfl
  · rw [if_neg h, if_neg h]
    rfl

/-- Headers that are left out do not count for other names. -/
theorem Headers.values_filter {keep : String × Text.Octets → Bool} {name : String}
    (kept : ∀ value, keep (name, value) = true) (headers : Headers) :
    Headers.values (headers.filter keep) name = headers.values name := by
  unfold Headers.values
  rw [List.filterMap_filter]
  congr 1
  funext header
  by_cases h : header.1 = name
  · rw [if_pos h, if_pos (by rw [← kept header.2, ← h])]
  · rw [if_neg h, ite_self]

/-- The header that counts is the first value under its name. -/
theorem Request.header?_eq_head? (request : Request) (name : String) :
    request.header? name = (request.headers.values name).head? := by
  unfold Request.header? Headers.values
  rw [List.lookup_eq_findSome?, List.head?_filterMap]
  congr 1
  funext header
  by_cases h : header.1 = name
  · rw [if_pos h, if_pos (beq_iff_eq.2 h.symm)]
  · rw [if_neg h, if_neg (fun heq => h (beq_iff_eq.1 heq).symm)]

end Http

namespace Service

/-! ## What is granted -/

/-- The names under which every answer says the same. -/
def standing : List String :=
  [Origins.exposed.1, "access-control-allow-credentials", Origins.vary.1]

theorem values_pass (origins : Origins) (request : Request) (name : String) :
    (origins.pass request).values name =
      if "access-control-allow-origin" = name then
        (request.header? "origin").toList.filter (· ∈ origins.allowed)
      else [] := by
  unfold Origins.pass
  cases request.header? "origin" with
  | none =>
    simp only [Headers.values_nil, Option.toList_none, List.filter_nil, ite_self]
  | some origin =>
    by_cases h : origin ∈ origins.allowed
    · simp only [List.contains_iff_mem, h, if_true, Headers.values_cons, Headers.values_nil,
        List.append_nil, Option.toList_some, List.filter_cons, List.filter_nil, decide_true]
    · simp only [List.contains_iff_mem, h, if_false, Headers.values_nil, Option.toList_some,
        List.filter_cons, List.filter_nil, decide_false, Bool.false_eq_true, ite_self]

theorem values_grant {name : String} (other : name ∉ standing) (origins : Origins)
    (request : Request) :
    (origins.grant request).values name = (origins.pass request).values name := by
  simp only [standing, List.mem_cons, List.not_mem_nil, or_false, not_or] at other
  rcases other with ⟨-, credentials, vary⟩
  unfold Origins.grant
  rw [Headers.values_cons, Headers.values_cons, if_neg (Ne.symm credentials),
    if_neg (Ne.symm vary)]
  rfl

/-- Beside what every answer says, a signed answer holds what was found and the pass. -/
theorem values_sign {name : String} (other : name ∉ standing) (origins : Origins)
    (request : Request) (response : Response) :
    (origins.sign request response).headers.values name =
      response.headers.values name ++ (origins.pass request).values name := by
  have exposed : Origins.exposed.1 ≠ name := fun heq => other (heq ▸ List.mem_cons_self)
  unfold Origins.sign Response.adding
  rw [Headers.values_append, Headers.values_cons, if_neg exposed, values_grant other]
  rfl

theorem values_sent {name : String} (other : name ∉ standing) (origins : Origins)
    (request : Request) (response : Response) :
    (sent origins request response).headers.values name =
      response.headers.values name ++ (origins.pass request).values name := by
  unfold sent
  rw [values_sign other]
  split <;> rfl

/-- A page that asks before it acts is granted what it asks for. -/
theorem values_preflight {name : String} (other : name ∉ standing) (route : name ≠ "allow")
    (origins : Origins) (request : Request) :
    (preflight origins request).headers.values name =
      (origins.pass request).values name ++
        (if "access-control-allow-methods" = name then
          (request.header? "access-control-request-method").toList else []) ++
        (if "access-control-allow-headers" = name then
          (request.header? "access-control-request-headers").toList else []) := by
  have granted (asked given : String) : (Origins.granted request asked given).values name =
      if given = name then (request.header? asked).toList else [] := by
    unfold Origins.granted
    cases request.header? asked with
    | none => exact (ite_self _).symm
    | some value =>
      rw [Headers.values_cons, Headers.values_nil, List.append_nil]
      rfl
  have plain : (origins.preflight request).headers.values name =
      (origins.grant request ++
        Origins.granted request "access-control-request-method" "access-control-allow-methods" ++
        Origins.granted request "access-control-request-headers"
          "access-control-allow-headers").values name := rfl
  have same : (preflight origins request).headers.values name =
      (origins.preflight request).headers.values name := by
    unfold preflight
    cases Route.ofPath? request.path with
    | none => rfl
    | some known =>
      have allow : known.allow.1 ≠ name := Ne.symm route
      simp only [Response.adding]
      rw [Headers.values_append, Headers.values_cons, if_neg allow, Headers.values_nil,
        List.append_nil, List.append_nil]
  rw [same, plain, Headers.values_append, Headers.values_append, values_grant other, granted,
    granted]

/-! ## What is found -/

theorem headers_settle (service : Service) (operation : Operation)
    (outcome : Except Problem Success) :
    (service.settle operation outcome).response.headers =
      [Response.contentType "application/json"] := by
  cases outcome with
  | error problem => rfl
  | ok success => cases success <;> rfl

theorem headers_carryOut (service : Service) (outage : Outage) (moment : Moment)
    (request : Request) (inquiry : Inquiry) :
    (service.carryOut outage moment request inquiry).response.headers =
      [Response.contentType "application/json"] := by
  unfold carryOut
  cases inquiry.call request moment with
  | error problem => exact headers_settle _ _ _
  | ok call => exact headers_settle _ _ _

/-- What is done about a request says what the body of the answer is, and nothing
    else. -/
theorem headers_act (service : Service) (outage : Outage) (moment : Moment) (request : Request)
    (action : Action) :
    ∃ mediaType, (service.act outage moment request action).response.headers =
      [Response.contentType mediaType] := by
  cases action with
  | health | metrics => exact ⟨_, rfl⟩
  | ready =>
    simp only [act, ready]
    cases outage.reach <;> exact ⟨_, rfl⟩
  | list | create => exact ⟨_, headers_carryOut ..⟩
  | get segment | update segment | delete segment =>
    simp only [act, onRule]
    cases ruleId? segment with
    | none => exact ⟨_, rfl⟩
    | some id => exact ⟨_, headers_carryOut ..⟩

-- Where nothing is done, nothing is found that would be a pass.
theorem passes_idle (origins : Origins) (request : Request) :
    (idle origins request).headers.values "access-control-allow-origin" =
      (origins.pass request).values "access-control-allow-origin" := by
  unfold idle
  by_cases hoptions : request.method = "OPTIONS"
  · rw [if_pos hoptions, values_preflight (by decide) (by decide), if_neg (by decide),
      if_neg (by decide), List.append_nil, List.append_nil]
  · rw [if_neg hoptions, values_sign (by decide)]
    cases Route.ofPath? request.path with
    | none => rfl
    | some route =>
      have allow : route.allow.1 ≠ "access-control-allow-origin" :=
        (by decide : "allow" ≠ "access-control-allow-origin")
      simp only [Response.adding, Response.bare, List.nil_append]
      rw [Headers.values_cons, if_neg allow]
      rfl

/-- The passes of an answer are those that the origins give, whatever is done. -/
theorem passes_handle (service : Service) (origins : Origins) (outage : Outage)
    (moment : Moment) (request : Request) :
    (service.handle origins outage moment request).response.headers.values
        "access-control-allow-origin" =
      (request.header? "origin").toList.filter (· ∈ origins.allowed) := by
  have pass := values_pass origins request "access-control-allow-origin"
  rw [if_pos rfl] at pass
  cases haction : action? request with
  | none =>
    rw [handle_of_action?_none haction, ← pass]
    exact passes_idle origins request
  | some action =>
    rcases headers_act service outage moment request action with ⟨mediaType, headers⟩
    rw [handle_of_action? haction, ← pass]
    have found : (Response.contentType mediaType).1 ≠ "access-control-allow-origin" :=
      (by decide : "content-type" ≠ "access-control-allow-origin")
    simp only
    rw [values_sent (by decide), headers, Headers.values_cons, if_neg found]
    rfl

end Service

end Rulebook

import Rulebook.Proofs.Service.Grant
import Rulebook.Proofs.Service.Ledger
import Rulebook.Proofs.Service.Twins

/-!
# Who Is Let In

A page of another origin is let in if its origin is on the configured list. It is told so
by a pass, which names its origin back to it, and any other page is told nothing. This is
all that the list decides: `passes_handle` reads the passes off every answer, and
`handle_congr` says that two lists which let in the same origins are not to be told apart.

What is done about a request, on the other hand, is decided without the list, and without
the headers by which a page says where it comes from and what it means to ask. Two runs
that differ in these only are twins, and in both the same is done. A page that asks before
it acts is answered from its request alone.

## Main definitions

* `Origins.Padded`: A text with blanks around it.
* `Origins.SameEntries`: Lists of the same entries.
* `SameWork`: Requests that ask for the same work.
* `Turn.SameDone`: Turns in which the same is done.

## Theorems

* `ofList?_eq_ok_iff`: Which lists of origins are taken.
* `mem_entries_congr`: The origins on a list depend on its entries only.
* `handle_congr`: An answer depends on which origins are let in.
* `handle_sameWork`: What is done about a request depends on the work it asks for.
* `origins_decide_access`: The list decides who is let in, and nothing else.
-/

namespace Rulebook

open Http (Headers Request Response)

namespace Origins

/-! ## Lists of origins -/

/-- A text that has blanks around what it stands for. -/
def Padded (core : List Char) (text : String) : Prop :=
  ∃ before after, (∀ c ∈ before, Text.isBlank c = true) ∧ (∀ c ∈ after, Text.isBlank c = true) ∧
    text.toList = before ++ core ++ after

/-- Two lists of the same entries. In what order these stand, how often, and with how
    many blanks around them, does not count. -/
structure SameEntries (a b : List String) : Prop where
  forth : ∀ s ∈ a, ∃ t ∈ b, ∃ core, Padded core s ∧ Padded core t
  back : ∀ t ∈ b, ∃ s ∈ a, ∃ core, Padded core s ∧ Padded core t

/-- What an entry stands for is read without the blanks around it. -/
theorem entry_of_padded {core : List Char} {text : String} (padded : Padded core text) :
    entry text = entry (String.ofList core) := by
  rcases padded with ⟨before, after, hbefore, hafter, heq⟩
  unfold entry
  rw [heq, Text.trim_padded hbefore hafter, String.toList_ofList]

/-- The origins on a list depend on its entries only. -/
theorem mem_entries_congr {a b : List String} (same : SameEntries a b) (origin : Text.Octets) :
    origin ∈ a.map entry ↔ origin ∈ b.map entry := by
  simp only [List.mem_map]
  constructor
  · rintro ⟨s, hs, rfl⟩
    rcases same.forth s hs with ⟨t, ht, core, hcore, hcore'⟩
    exact ⟨t, ht, (entry_of_padded hcore').trans (entry_of_padded hcore).symm⟩
  · rintro ⟨t, ht, rfl⟩
    rcases same.back t ht with ⟨s, hs, core, hcore, hcore'⟩
    exact ⟨s, hs, (entry_of_padded hcore).trans (entry_of_padded hcore').symm⟩

/-- A list is taken if each entry can stand in a header and none is an asterisk. -/
theorem ofList?_eq_ok_iff {entries : List String} {origins : Origins} :
    ofList? entries = .ok origins ↔
      origins.allowed = entries.map entry ∧
        (∀ origin ∈ entries.map entry, Http.isHeaderValue origin = true) ∧
        Text.octets "*" ∉ entries.map entry := by
  rcases origins with ⟨allowed⟩
  simp only [ofList?]
  by_cases legal : (entries.map entry).all Http.isHeaderValue = true
  · by_cases asterisk : (entries.map entry).contains (Text.octets "*") = true
    · have listed := List.contains_iff_mem.1 asterisk
      simp only [legal, asterisk, Bool.not_true, Bool.false_eq_true, if_false, if_true,
        reduceCtorEq, false_iff]
      exact fun h => h.2.2 listed
    · have unlisted : Text.octets "*" ∉ entries.map entry :=
        fun h => asterisk (List.contains_iff_mem.2 h)
      simp only [legal, asterisk, Bool.not_true, Bool.false_eq_true, if_false, Except.ok.injEq,
        mk.injEq]
      exact ⟨fun h => ⟨h.symm, List.all_eq_true.1 legal, unlisted⟩, fun h => h.1.symm⟩
  · simp only [legal, Bool.not_false, if_true, reduceCtorEq, false_iff]
    exact fun h => legal (List.all_eq_true.2 h.2.1)

theorem pass_congr {a b : Origins} (same : ∀ origin, origin ∈ a.allowed ↔ origin ∈ b.allowed)
    (request : Request) : a.pass request = b.pass request := by
  unfold pass
  cases request.header? "origin" with
  | none => rfl
  | some origin => simp only [List.contains_iff_mem, same origin]

end Origins

namespace Service

/-- An answer depends on the origins that are let in, and not on how they are listed. -/
theorem handle_congr {a b : Origins} (same : ∀ origin, origin ∈ a.allowed ↔ origin ∈ b.allowed)
    (service : Service) (outage : Outage) (moment : Moment) (request : Request) :
    service.handle a outage moment request = service.handle b outage moment request := by
  have grant : a.grant request = b.grant request := by
    unfold Origins.grant
    rw [Origins.pass_congr same]
  unfold handle preflight Origins.preflight Origins.sign
  rw [grant]

/-! ## Requests for the same work -/

/-- Whether a header says where a page comes from or what it means to ask. -/
def saysWho (name : String) : Bool :=
  name = "origin" || "access-control-request-".toList.isPrefixOf name.toList

/-- Two requests for the same work: they differ at most in the headers by which a page
    says where it comes from and what it means to ask. -/
structure SameWork (a b : Request) : Prop where
  method : a.method = b.method
  path : a.path = b.path
  body : a.body = b.body
  headers : a.headers.filter (!saysWho ·.1) = b.headers.filter (!saysWho ·.1)

/-- Two turns in which the same is done: the answers have the same status and the same
    body, the log is told the same, and the service comes out the same. -/
structure Turn.SameDone (a b : Turn) : Prop where
  status : a.response.status = b.response.status
  body : a.response.body = b.response.body
  events : a.events = b.events
  service : a.service = b.service

section

variable {r s : Request}

theorem payload_sameWork (same : SameWork r s) : payload r = payload s := by
  refine payload_congr ?_ same.body
  have mediaType (headers : Headers) :
      Headers.values (headers.filter (!saysWho ·.1)) "content-type" =
        headers.values "content-type" :=
    Headers.values_filter (fun _ => (by decide : (!saysWho "content-type") = true)) headers
  rw [Request.header?_eq_head?, Request.header?_eq_head?, ← mediaType, same.headers, mediaType]

-- Where nothing is done, the method and the path say what is answered.
theorem idle_sameWork (same : SameWork r s) (origins other : Origins) :
    (idle origins r).status = (idle other s).status ∧
      (idle origins r).body = (idle other s).body := by
  unfold idle
  rw [same.method, same.path]
  split
  · unfold preflight
    rw [same.path]
    cases Route.ofPath? s.path <;> exact ⟨rfl, rfl⟩
  · exact ⟨rfl, rfl⟩

/-- What is done about a request depends on the work it asks for, and neither on where it
    comes from nor on who is let in. -/
theorem handle_sameWork (same : SameWork r s) (service : Service) (origins other : Origins)
    (outage : Outage) (moment : Moment) :
    (service.handle origins outage moment r).SameDone (service.handle other outage moment s) := by
  have action := action?_congr same.method same.path
  cases haction : action? r with
  | none =>
    rw [handle_of_action?_none haction, handle_of_action?_none (action ▸ haction)]
    rcases idle_sameWork same origins other with ⟨status, body⟩
    exact ⟨status, body, rfl, rfl⟩
  | some action' =>
    rw [handle_of_action? haction, handle_of_action? (action ▸ haction),
      act_congr (payload_sameWork same)]
    refine ⟨?_, ?_, rfl, rfl⟩
    · simp only [status_sent]
    · simp only [body_sent_eq, same.method]

end

/-! ## Pages that ask before they act -/

theorem handle_preflight {request : Request} (options : request.method = "OPTIONS")
    (service : Service) (origins : Origins) (outage : Outage) (moment : Moment) :
    service.handle origins outage moment request =
      service.quiet (preflight origins request) := by
  unfold handle
  rw [if_pos options]

theorem preflight_bare (origins : Origins) (request : Request) :
    (preflight origins request).status = 200 ∧ (preflight origins request).body = "" := by
  unfold preflight
  cases Route.ofPath? request.path <;> exact ⟨rfl, rfl⟩

/-! ## The law of access -/

/-- With a list of origins that is taken, an answer to any request holds a pass if the
    first origin that the request names is on the list, and the pass is then this origin,
    octet by octet. There is no other pass, and none is an asterisk. A page that asks
    before it acts is told that all is well, with the method and the headers it asks for,
    and nothing is done.

    The same entries in another list let in the same pages. And whatever the list holds
    and wherever requests come from: in two runs that ask for the same work, the same is
    done. -/
theorem origins_decide_access {entries : List String} {origins : Origins}
    (accepted : Origins.ofList? entries = .ok origins) :
    (∀ (service : Service) (outage : Outage) (moment : Moment) (request : Request),
      let turn := service.handle origins outage moment request
      let passes := turn.response.headers.values "access-control-allow-origin"
      passes = (request.header? "origin").toList.filter (· ∈ entries.map Origins.entry) ∧
      Text.octets "*" ∉ passes ∧
      (request.method = "OPTIONS" →
        turn.response.status = 200 ∧ turn.response.body = "" ∧
        turn.response.headers.values "access-control-allow-methods" =
          (request.header? "access-control-request-method").toList ∧
        turn.response.headers.values "access-control-allow-headers" =
          (request.header? "access-control-request-headers").toList ∧
        turn.events = [] ∧ turn.service = service)) ∧
    (∀ others : List String, Origins.SameEntries entries others →
      ∃ other, Origins.ofList? others = .ok other ∧
        ∀ (service : Service) (outage : Outage) (moment : Moment) (request : Request),
          service.handle other outage moment request =
            service.handle origins outage moment request) ∧
    ∀ (other : Origins) (first second : World), first.service = second.service →
      first.outage = second.outage → ∀ steps twins : List Step,
        List.Forall₂ (Step.Twin Eq SameWork) steps twins →
          (first.run origins steps).service = (second.run other twins).service ∧
          List.Forall₂ (fun a b => a.2.SameDone b.2) (first.turns origins steps)
            (second.turns other twins) := by
  rcases Origins.ofList?_eq_ok_iff.1 accepted with ⟨allowed, legal, asterisk⟩
  refine ⟨fun service outage moment request => ?_, fun others same => ?_,
    fun other first second service outage steps twins paired => ?_⟩
  · intro turn passes
    have listed : passes =
        (request.header? "origin").toList.filter (· ∈ entries.map Origins.entry) := by
      rw [← allowed]
      exact passes_handle service origins outage moment request
    refine ⟨listed, fun pass => ?_, fun options => ?_⟩
    · rw [listed, List.mem_filter] at pass
      exact asterisk (of_decide_eq_true pass.2)
    · have asked : turn = service.quiet (preflight origins request) :=
        handle_preflight options service origins outage moment
      rcases preflight_bare origins request with ⟨status, body⟩
      rw [asked]
      refine ⟨status, body, ?_, ?_, rfl, rfl⟩
      · simp only [quiet]
        rw [values_preflight (by decide) (by decide), values_pass, if_neg (by decide),
          if_pos rfl, if_neg (by decide), List.nil_append, List.append_nil]
      · simp only [quiet]
        rw [values_preflight (by decide) (by decide), values_pass, if_neg (by decide),
          if_neg (by decide), if_pos rfl, List.nil_append, List.nil_append]
  · have entry := Origins.mem_entries_congr same
    have taken : Origins.ofList? others = .ok ⟨others.map Origins.entry⟩ :=
      Origins.ofList?_eq_ok_iff.2 ⟨rfl, fun origin h => legal origin ((entry origin).2 h),
        fun h => asterisk ((entry _).2 h)⟩
    refine ⟨_, taken, handle_congr fun origin => ?_⟩
    rw [allowed]
    exact (entry origin).symm
  · have together := twin_runs Eq SameWork Turn.SameDone origins other
      (fun service moment a b r s outage same => by
        subst outage
        have done := handle_sameWork same service origins other a moment
        exact ⟨done.service, done⟩)
      service outage paired
    exact ⟨together.1, together.2.imp fun _ _ both => both.2⟩

-- A page on the list is let in, the list may be written otherwise, and a page that is on
-- no list has the same rule filed.
theorem origins_decide_access_page :
    let now : Instant := ⟨0, 0, by decide, by decide, by decide⟩
    let moment : Moment := ⟨now, ⟨"a"⟩, 0⟩
    let entries : List String := ["http://a.example", "http://b.example"]
    let others : List String := ["http://b.example", " http://a.example\t", "http://b.example"]
    let origins : Origins := ⟨entries.map Origins.entry⟩
    let filing (origin : String) : Request :=
      { method := "POST"
        path := Route.rulesPath
        headers :=
          [("origin", Text.octets origin), ("content-type", Text.octets "application/json")]
        body := Text.octets "[\"n\", null, \"c\", \"x\", true]" }
    let asking : Request := { filing "http://a.example" with method := "OPTIONS" }
    let steps (origin : String) : List Step := [.request moment (filing origin)]
    let start : World := {}
    let turn := start.service.handle origins Outage.none moment asking
    Origins.ofList? entries = .ok origins ∧
      turn.response.headers.values "access-control-allow-origin" =
        [Text.octets "http://a.example"] ∧
      turn.response.status = 200 ∧
      Origins.SameEntries entries others ∧
      (∃ other, Origins.ofList? others = .ok other ∧
        start.service.handle other Outage.none moment asking = turn) ∧
      List.Forall₂ (Step.Twin Eq SameWork) (steps "http://a.example") (steps "http://c.example") ∧
      (start.run origins (steps "http://a.example")).service =
        (start.run ⟨[]⟩ (steps "http://c.example")).service ∧
      (start.run origins (steps "http://a.example")).service.store.rules.length = 1 := by
  intro now moment entries others origins filing asking steps start turn
  have accepted : Origins.ofList? entries = .ok origins := by decide +kernel
  rcases origins_decide_access accepted with ⟨access, lists, twins⟩
  have passes := access start.service Outage.none moment asking
  have plain (s : String) : Origins.Padded s.toList s :=
    ⟨[], [], List.forall_mem_nil _, List.forall_mem_nil _, (List.append_nil _).symm⟩
  have padded : Origins.Padded "http://a.example".toList " http://a.example\t" :=
    ⟨[' '], ['\t'], List.forall_mem_singleton.2 rfl, List.forall_mem_singleton.2 rfl,
      by decide +kernel⟩
  have same : Origins.SameEntries entries others := by
    constructor
    · intro s hs
      simp only [entries, List.mem_cons, List.not_mem_nil, or_false] at hs
      rcases hs with rfl | rfl
      · exact ⟨_, List.mem_cons_of_mem _ List.mem_cons_self, _, plain _, padded⟩
      · exact ⟨_, List.mem_cons_self, _, plain _, plain _⟩
    · intro t ht
      simp only [others, List.mem_cons, List.not_mem_nil, or_false] at ht
      rcases ht with rfl | rfl | rfl
      · exact ⟨_, List.mem_cons_of_mem _ List.mem_cons_self, _, plain _, plain _⟩
      · exact ⟨_, List.mem_cons_self, _, plain _, padded⟩
      · exact ⟨_, List.mem_cons_of_mem _ List.mem_cons_self, _, plain _, plain _⟩
  rcases lists others same with ⟨other, taken, alike⟩
  have work : SameWork (filing "http://a.example") (filing "http://c.example") :=
    ⟨rfl, rfl, rfl, by decide +kernel⟩
  have paired : List.Forall₂ (Step.Twin Eq SameWork) (steps "http://a.example")
      (steps "http://c.example") := .cons (.request moment work) .nil
  exact ⟨accepted, passes.1.trans (by decide +kernel), (passes.2.2 rfl).1, same,
    ⟨other, taken, alike start.service Outage.none moment asking⟩, paired,
    (twins ⟨[]⟩ start start rfl rfl _ _ paired).1, by decide +kernel⟩

end Service

end Rulebook

import Rulebook.Launch
import Rulebook.Settings.Help

/-!
# Opened and Closed Again

A run opens the place where its rules are kept, serves, and closes that place again.
Between the opening and the serving it does a few things that may go wrong, and whichever
does ends the run there and then. `launch_cases` is the one place where the stages of a
run are gone through: either everything is in order, and then the run has made all of its
preparations and goes on as the serving does; or something is not, and then it stops
after some of the preparations and has neither served nor closed anything.

So what is opened is closed again if the run serves and then comes to its end, be it by a
failure of the serving. It is not if the run fails before: the closing stands behind the
serving, and a failure in front of it passes it by. Such a run leaves the place open.

What a run says is left out of account here. Of a deed it is only looked at whether it
is an act, and of a run at the row of its acts.

## Main definitions

* `Deed.isAct`, `Course.acts`: What a run does apart from what it says.
* `Course.GoesOn`, `Course.Stops`: How a stage of a run passes on, or ends the run.
* `Settings.place`, `Settings.preparations`: What is to be done before a run listens.
* `Ready`: Everything that serving takes is in order.
* `Course.Returns`, `Course.ClosedLast`: A run comes to its end; it closes the place of
  its rules once and does nothing afterwards.

## Theorems

* `listen_cases`, `checkOrigins_cases`, `migrate_cases`, `openDatabase_cases`,
  `inMemory_cases`: What a stage comes to.
* `launch_cases`: What a run comes to.
* `acts_serve`, `acts_of_ready`: What serving comes to, and a run that serves.
* `lifecycle_law`: When a run serves, what it has done before, and whether it closes.
* `refused_address_unclosed`: A run that returns and does not close what it opened.
-/

namespace Rulebook

/-- Whether a deed is more than words. -/
def Deed.isAct : Deed → Bool
  | .say _ => false
  | .openPlace _ | .migrate | .listen _ | .serve | .closePlace => true

namespace Course

/-- What a course does, apart from what it says. -/
def acts (course : Course) : List Deed :=
  course.deeds.filter Deed.isAct

@[simp] theorem acts_before (deeds : List Deed) (course : Course) :
    (before deeds course).acts = deeds.filter Deed.isAct ++ course.acts :=
  List.filter_append ..

theorem mem_acts_iff {course : Course} {deed : Deed} (act : deed.isAct = true) :
    deed ∈ course.acts ↔ deed ∈ course.deeds := by
  simp only [acts, List.mem_filter, act, and_true]

/-- A course goes on as another one does, after some acts. -/
structure GoesOn (front : List Deed) (course rest : Course) : Prop where
  acts : course.acts = front ++ rest.acts
  ending : course.ending = rest.ending

/-- A course stops after some acts, by a failure or by breaking off. -/
structure Stops (front : List Deed) (course : Course) : Prop where
  acts : course.acts = front
  ending : (∃ failure, course.ending = .failed failure) ∨
    ∃ message, course.ending = .aborted message

section

variable {front acts deeds : List Deed} {course rest : Course}

theorem GoesOn.before (h : GoesOn front course rest)
    (together : deeds.filter Deed.isAct ++ front = acts) :
    GoesOn acts (before deeds course) rest where
  acts := by rw [acts_before, h.acts, ← together, List.append_assoc]
  ending := h.ending

theorem Stops.before (h : Stops front course)
    (together : deeds.filter Deed.isAct ++ front = acts) : Stops acts (before deeds course) where
  acts := by rw [acts_before, h.acts, together]
  ending := h.ending

theorem goesOn_self (course : Course) : GoesOn [] course course :=
  ⟨rfl, rfl⟩

theorem stops_fail (failure : Failure) : Stops [] (fail failure) :=
  ⟨rfl, .inl ⟨failure, rfl⟩⟩

end

/-- A course comes to its end, well or by a failure, and is not ended from outside. -/
def Returns (course : Course) : Prop :=
  course.ending = .finished ∨ ∃ failure, course.ending = .failed failure

/-- A course closes the place of its rules once, and does nothing afterwards. -/
def ClosedLast (course : Course) : Prop :=
  ∃ earlier, course.acts = earlier ++ [.closePlace] ∧ .closePlace ∉ earlier

end Course

open Course (GoesOn Stops)

/-- Where rules are to be kept: in a database, if there is an address that is not empty. -/
def Settings.place (settings : Settings) : Place :=
  match settings.databaseUrl with
  | some url => if url.isEmpty then .memory else .database url
  | none => .memory

/-- What is done to see to it that the table is there. -/
def Settings.migrations (settings : Settings) : List Deed :=
  if settings.runMigrations then [.migrate] else []

/-- What is to be done before a run listens. In memory there is no table. -/
def Settings.preparations (settings : Settings) : List Deed :=
  .openPlace settings.place :: if settings.place = .memory then [] else settings.migrations

theorem Settings.place_eq_database_iff {settings : Settings} {url : String} :
    settings.place = .database url ↔ settings.databaseUrl = some url ∧ url ≠ "" := by
  unfold place
  cases settings.databaseUrl with
  | none => simp only [reduceCtorEq, false_and]
  | some address =>
    rw [Option.some.injEq]
    by_cases h : address = ""
    · have empty : address.isEmpty = true := String.isEmpty_iff.2 h
      simp only [empty, if_true, reduceCtorEq, false_iff]
      rintro ⟨rfl, filled⟩
      exact filled h
    · have filled : address.isEmpty = false := String.isEmpty_eq_false_iff.2 h
      simp only [filled, Bool.false_eq_true, if_false, Place.database.injEq]
      constructor
      · rintro rfl
        exact ⟨rfl, h⟩
      · exact fun same => same.1

/-- The database with an address can be connected to. -/
structure Connects (settings : Settings) (outcomes : Outcomes) (url : String) : Prop where
  read : ∃ address, Database.Address.read url = .ok address
  room : settings.maxConnections ≠ 0
  connected : outcomes.connect = .ok ()

/-- The origins are admitted, and the run can listen at a socket. -/
structure Listens (settings : Settings) (outcomes : Outcomes) (socket : Socket) : Prop where
  admitted : ∃ origins, Origins.ofList? settings.origins = .ok origins
  accepted : Socket.read? settings.listenAddress = some socket
  bound : outcomes.bind = .ok ()

/-- Everything that serving takes is in order, and the run listens at a socket. -/
structure Ready (settings : Settings) (outcomes : Outcomes) (socket : Socket) : Prop
    extends Listens settings outcomes socket where
  connects : ∀ url, settings.place = .database url → Connects settings outcomes url
  migrated : ∀ url, settings.place = .database url → settings.runMigrations = true →
    outcomes.migrate = .ok ()

namespace Launch

section

variable (settings : Settings) (outcomes : Outcomes)

/-! ## Stages -/

theorem listen_cases :
    (∃ socket, Socket.read? settings.listenAddress = some socket ∧ outcomes.bind = .ok () ∧
      GoesOn [.listen socket] (listen settings outcomes) (serve settings outcomes)) ∨
    ((∀ socket, Socket.read? settings.listenAddress = some socket → outcomes.bind ≠ .ok ()) ∧
      Stops [] (listen settings outcomes)) := by
  unfold listen
  cases Socket.read? settings.listenAddress with
  | none =>
    right
    refine ⟨fun socket h => ?_, Course.stops_fail _⟩
    exact absurd h.symm (Option.some_ne_none socket)
  | some socket =>
    cases outcomes.bind with
    | error failure =>
      right
      refine ⟨fun _ _ => by simp only [ne_eq, reduceCtorEq, not_false_eq_true], ?_⟩
      exact (Course.stops_fail failure).before rfl
    | ok =>
      left
      refine ⟨socket, rfl, rfl, ?_⟩
      exact ((Course.goesOn_self _).before rfl).before rfl

theorem checkOrigins_cases :
    (∃ socket, Listens settings outcomes socket ∧
      GoesOn [.listen socket] (checkOrigins settings outcomes) (serve settings outcomes)) ∨
    ((∀ socket, ¬ Listens settings outcomes socket) ∧
      Stops [] (checkOrigins settings outcomes)) := by
  unfold checkOrigins
  cases admitted : Origins.ofList? settings.origins with
  | error fault =>
    right
    refine ⟨fun socket h => ?_, ?_⟩
    · rcases h.admitted with ⟨origins, taken⟩
      rw [admitted] at taken
      exact absurd taken (by simp only [reduceCtorEq, not_false_eq_true])
    · cases fault with
      | badValue => exact Course.stops_fail _
      | wildcard => exact ⟨rfl, .inr ⟨_, rfl⟩⟩
  | ok origins =>
    rcases listen_cases settings outcomes with ⟨socket, accepted, bound, on⟩ | ⟨refused, stops⟩
    · exact .inl ⟨socket, ⟨⟨origins, admitted⟩, accepted, bound⟩, on⟩
    · exact .inr ⟨fun socket h => refused socket h.accepted h.bound, stops⟩

theorem migrate_cases :
    (∃ socket, Listens settings outcomes socket ∧
      (settings.runMigrations = true → outcomes.migrate = .ok ()) ∧
      GoesOn (settings.migrations ++ [.listen socket]) (migrate settings outcomes)
        (serve settings outcomes)) ∨
    ((∀ socket, Listens settings outcomes socket →
        settings.runMigrations = true ∧ outcomes.migrate ≠ .ok ()) ∧
      Stops settings.migrations (migrate settings outcomes)) := by
  unfold migrate Settings.migrations
  by_cases wanted : settings.runMigrations = true
  · rw [if_pos wanted, if_pos wanted]
    cases outcomes.migrate with
    | error failure =>
      right
      refine ⟨fun _ _ => ⟨wanted, by simp only [ne_eq, reduceCtorEq, not_false_eq_true]⟩, ?_⟩
      exact (Course.stops_fail failure).before rfl
    | ok =>
      rcases checkOrigins_cases settings outcomes with ⟨socket, listens, on⟩ | ⟨refused, stops⟩
      · exact .inl ⟨socket, listens, fun _ => rfl, on.before rfl⟩
      · exact .inr ⟨fun socket h => absurd h (refused socket), stops.before rfl⟩
  · rw [if_neg wanted, if_neg wanted]
    rcases checkOrigins_cases settings outcomes with ⟨socket, listens, on⟩ | ⟨refused, stops⟩
    · exact .inl ⟨socket, listens, fun h => absurd h wanted, on⟩
    · exact .inr ⟨fun socket h => absurd h (refused socket), stops⟩

theorem openDatabase_cases (url : String) :
    (∃ socket, Listens settings outcomes socket ∧ Connects settings outcomes url ∧
      (settings.runMigrations = true → outcomes.migrate = .ok ()) ∧
      GoesOn (.openPlace (.database url) :: settings.migrations ++ [.listen socket])
        (openDatabase settings outcomes url) (serve settings outcomes)) ∨
    ((∀ socket, Listens settings outcomes socket → Connects settings outcomes url →
        settings.runMigrations = true ∧ outcomes.migrate ≠ .ok ()) ∧
      ∃ front, front <+: .openPlace (.database url) :: settings.migrations ∧
        Stops front (openDatabase settings outcomes url)) := by
  unfold openDatabase
  cases read : Database.Address.read url with
  | error fault =>
    right
    refine ⟨fun _ _ connects => ?_, [], List.nil_prefix, Course.stops_fail _⟩
    rcases connects.read with ⟨address, legible⟩
    rw [read] at legible
    exact absurd legible (by simp only [reduceCtorEq, not_false_eq_true])
  | ok address =>
    by_cases room : settings.maxConnections = 0
    · right
      refine ⟨fun _ _ connects => absurd room connects.room, [], List.nil_prefix, ?_⟩
      simp only [room, if_true]
      exact ⟨rfl, .inr ⟨_, rfl⟩⟩
    · simp only [room, if_false]
      cases connected : outcomes.connect with
      | error failure =>
        right
        refine ⟨fun _ _ connects => ?_, [], List.nil_prefix, Course.stops_fail _⟩
        exact absurd (connected.symm.trans connects.connected)
          (by simp only [reduceCtorEq, not_false_eq_true])
      | ok =>
        rcases migrate_cases settings outcomes with ⟨socket, listens, migrated, on⟩ |
          ⟨refused, stops⟩
        · exact .inl ⟨socket, listens, ⟨⟨address, read⟩, room, connected⟩, migrated,
            on.before rfl⟩
        · exact .inr ⟨fun socket h _ => refused socket h, _, List.prefix_refl _,
            stops.before rfl⟩

theorem inMemory_cases :
    (∃ socket, Listens settings outcomes socket ∧
      GoesOn [.openPlace .memory, .listen socket] (openPlace.inMemory settings outcomes)
        (serve settings outcomes)) ∨
    ((∀ socket, ¬ Listens settings outcomes socket) ∧
      Stops [.openPlace .memory] (openPlace.inMemory settings outcomes)) := by
  unfold openPlace.inMemory
  rcases checkOrigins_cases settings outcomes with ⟨socket, listens, on⟩ | ⟨refused, stops⟩
  · exact .inl ⟨socket, listens, on.before rfl⟩
  · exact .inr ⟨refused, stops.before rfl⟩

/-- The place that is opened is the one that the settings name. -/
theorem openPlace_eq : openPlace settings outcomes =
    match settings.place with
    | .memory => openPlace.inMemory settings outcomes
    | .database url => openDatabase settings outcomes url := by
  unfold openPlace Settings.place
  cases settings.databaseUrl with
  | none => rfl
  | some url =>
    cases h : url.isEmpty <;> simp only [h, Bool.false_eq_true, if_false, if_true]

/-- A run makes all of its preparations and goes on as the serving does if everything is
    in order, and stops after some of them if something is not. -/
theorem launch_cases :
    (∃ socket, Ready settings outcomes socket ∧
      GoesOn (settings.preparations ++ [.listen socket]) (launch settings outcomes)
        (serve settings outcomes)) ∨
    ((∀ socket, ¬ Ready settings outcomes socket) ∧
      ∃ front, front <+: settings.preparations ∧ Stops front (launch settings outcomes)) := by
  unfold launch Settings.preparations
  rw [openPlace_eq]
  cases kept : settings.place with
  | memory =>
    have remote (url : String) : settings.place ≠ .database url := by
      rw [kept]
      simp only [ne_eq, reduceCtorEq, not_false_eq_true]
    rcases inMemory_cases settings outcomes with ⟨socket, listens, on⟩ | ⟨refused, stops⟩
    · left
      refine ⟨socket, ⟨listens, ?_, ?_⟩, on.before rfl⟩
      · exact fun url h => absurd h (remote url)
      · exact fun url h => absurd h (remote url)
    · exact .inr ⟨fun socket h => refused socket h.toListens, _, List.prefix_refl _,
        stops.before rfl⟩
  | database address =>
    simp only [reduceCtorEq, if_false]
    rcases openDatabase_cases settings outcomes address with
      ⟨socket, listens, connects, migrated, on⟩ | ⟨refused, front, early, stops⟩
    · left
      refine ⟨socket, ⟨listens, ?_, fun _ _ => migrated⟩, on.before rfl⟩
      intro url h
      rw [kept, Place.database.injEq] at h
      rw [← h]
      exact connects
    · right
      refine ⟨fun socket h => ?_, front, early, stops.before rfl⟩
      rcases refused socket h.toListens (h.connects address kept) with ⟨wanted, failed⟩
      exact failed (h.migrated address kept wanted)

/-! ## Serving -/

/-- What serving comes to. Only a signal that nobody waits for keeps it from closing. -/
theorem acts_serve :
    ((serve settings outcomes).ending = .killed ∧ (serve settings outcomes).acts = [.serve]) ∨
    ((serve settings outcomes).Returns ∧
      (serve settings outcomes).acts = [.serve, .closePlace]) := by
  unfold serve
  cases outcomes.interruption with
  | failure failure => exact .inr ⟨.inr ⟨failure, rfl⟩, rfl⟩
  | signal =>
    by_cases graceful : settings.gracefulShutdown = true
    · rw [if_pos graceful]
      exact .inr ⟨.inl rfl, rfl⟩
    · rw [if_neg graceful]
      exact .inl ⟨rfl, rfl⟩

variable {settings outcomes}

theorem mem_preparations {deed : Deed} (h : deed ∈ settings.preparations) :
    deed = .openPlace settings.place ∨ deed = .migrate ∧ settings.runMigrations = true := by
  unfold Settings.preparations Settings.migrations at h
  rcases List.mem_cons.1 h with same | more
  · exact .inl same
  · right
    split at more
    · exact absurd more List.not_mem_nil
    · split at more
      · next wanted => exact ⟨List.mem_singleton.1 more, wanted⟩
      · exact absurd more List.not_mem_nil

/-- A run that is ready serves, behind its preparations, and closes the place of its rules
    unless a signal ends it that nobody waits for. -/
theorem acts_of_ready {socket : Socket} (ready : Ready settings outcomes socket) :
    ((launch settings outcomes).ending = .killed ∧ (launch settings outcomes).acts =
      settings.preparations ++ [.listen socket, .serve]) ∨
    ((launch settings outcomes).Returns ∧ (launch settings outcomes).acts =
      settings.preparations ++ [.listen socket, .serve, .closePlace]) := by
  rcases launch_cases settings outcomes with ⟨other, listens, on⟩ | ⟨refused, -⟩
  · obtain rfl : other = socket :=
      Option.some.inj (listens.accepted.symm.trans ready.accepted)
    rcases acts_serve settings outcomes with ⟨killed, acts⟩ | ⟨returns, acts⟩
    · left
      rw [on.ending, on.acts, acts, List.append_assoc]
      exact ⟨killed, rfl⟩
    · right
      unfold Course.Returns
      rw [on.ending, on.acts, acts, List.append_assoc]
      exact ⟨returns, rfl⟩
  · exact absurd ready (refused socket)

/-- Whatever a run does is one of its preparations, or it is ready. -/
theorem mem_acts_cases {deed : Deed} (h : deed ∈ (launch settings outcomes).acts) :
    deed ∈ settings.preparations ∨
      ∃ socket, Ready settings outcomes socket ∧ deed ∈ [.listen socket, .serve, .closePlace] := by
  rcases launch_cases settings outcomes with ⟨socket, ready, -⟩ | ⟨-, front, early, stops⟩
  · rcases acts_of_ready ready with ⟨-, acts⟩ | ⟨-, acts⟩
    · rw [acts] at h
      refine (List.mem_append.1 h).imp id fun late => ⟨socket, ready, ?_⟩
      have more : [Deed.listen socket, .serve] ⊆ [.listen socket, .serve, .closePlace] :=
        List.subset_append_left _ [Deed.closePlace]
      exact more late
    · rw [acts] at h
      exact (List.mem_append.1 h).imp id fun late => ⟨socket, ready, late⟩
  · rw [stops.acts] at h
    exact .inl (early.subset h)

theorem mem_deeds_serve_iff :
    .serve ∈ (launch settings outcomes).deeds ↔ ∃ socket, Ready settings outcomes socket := by
  rw [← Course.mem_acts_iff rfl]
  constructor
  · intro serves
    rcases mem_acts_cases serves with early | ⟨socket, ready, -⟩
    · rcases mem_preparations early with h | ⟨h, -⟩ <;> cases h
    · exact ⟨socket, ready⟩
  · rintro ⟨socket, ready⟩
    rcases acts_of_ready ready with ⟨-, acts⟩ | ⟨-, acts⟩ <;> rw [acts] <;>
      exact List.mem_append_right _ (List.mem_cons_of_mem _ List.mem_cons_self)

/-- No place is opened but the one that the settings name. -/
theorem eq_place_of_mem {place : Place}
    (opened : .openPlace place ∈ (launch settings outcomes).deeds) : place = settings.place := by
  rw [← Course.mem_acts_iff rfl] at opened
  rcases mem_acts_cases opened with early | ⟨socket, -, h⟩
  · rcases mem_preparations early with h | ⟨h, -⟩
    · exact Deed.openPlace.inj h
    · cases h
  · simp only [List.mem_cons, reduceCtorEq, List.not_mem_nil, or_self] at h

theorem runMigrations_of_mem (done : .migrate ∈ (launch settings outcomes).deeds) :
    settings.runMigrations = true := by
  rw [← Course.mem_acts_iff rfl] at done
  rcases mem_acts_cases done with early | ⟨socket, -, h⟩
  · rcases mem_preparations early with h | ⟨-, wanted⟩
    · cases h
    · exact wanted
  · simp only [List.mem_cons, reduceCtorEq, List.not_mem_nil, or_self] at h

/-- A run that serves and comes to its end closes the place of its rules. -/
theorem closedLast_of_serves (returns : (launch settings outcomes).Returns)
    (serves : .serve ∈ (launch settings outcomes).deeds) :
    (launch settings outcomes).ClosedLast := by
  rcases mem_deeds_serve_iff.1 serves with ⟨socket, ready⟩
  rcases acts_of_ready ready with ⟨killed, -⟩ | ⟨-, acts⟩
  · rcases returns with finished | ⟨failure, failed⟩
    · rw [killed] at finished
      cases finished
    · rw [killed] at failed
      cases failed
  · refine ⟨settings.preparations ++ [.listen socket, .serve], ?_, fun h => ?_⟩
    · rw [acts, List.append_assoc]
      rfl
    · rcases List.mem_append.1 h with early | late
      · rcases mem_preparations early with h | ⟨h, -⟩ <;> cases h
      · simp only [List.mem_cons, reduceCtorEq, List.not_mem_nil, or_self] at late

/-- A run that does not serve does not close anything. -/
theorem closePlace_notMem (idle : .serve ∉ (launch settings outcomes).deeds) :
    .closePlace ∉ (launch settings outcomes).deeds := by
  intro closes
  rw [← Course.mem_acts_iff rfl] at closes
  rcases mem_acts_cases closes with early | ⟨socket, ready, -⟩
  · rcases mem_preparations early with h | ⟨h, -⟩ <;> cases h
  · exact idle (mem_deeds_serve_iff.2 ⟨socket, ready⟩)

end

/-! ## Runs -/

/-- Whatever the settings are and whatever comes of the deeds that reach outside. A run
    serves exactly if everything is in order that serving takes: it can open the place of
    its rules, the migrations that are wanted succeed, the origins are admitted, and it
    can listen at its address. Before it serves it has done all of this, in this order.

    The place that a run opens is a database exactly if the settings have an address of
    one that is not empty, and without the wish for migrations there are none. A run that
    has opened a place and comes to its end closes it, once and as the last thing that it
    does, exactly if it has served; else it leaves it open. -/
theorem lifecycle_law (settings : Settings) (outcomes : Outcomes) :
    let course := launch settings outcomes
    (.serve ∈ course.deeds ↔ ∃ socket, Ready settings outcomes socket) ∧
    (∀ socket, Ready settings outcomes socket → ∃ closing,
      course.acts = settings.preparations ++ .listen socket :: .serve :: closing) ∧
    (∀ place, .openPlace place ∈ course.deeds →
      ∀ url, place = .database url ↔ settings.databaseUrl = some url ∧ url ≠ "") ∧
    (.migrate ∈ course.deeds → settings.runMigrations = true) ∧
    (course.Returns → ∀ place, .openPlace place ∈ course.deeds →
      (course.ClosedLast ↔ .serve ∈ course.deeds) ∧
        (.serve ∉ course.deeds → .closePlace ∉ course.deeds)) := by
  intro course
  refine ⟨mem_deeds_serve_iff, fun socket ready => ?_, fun place opened url => ?_,
    runMigrations_of_mem, fun returns place opened => ⟨⟨fun closed => ?_, ?_⟩, ?_⟩⟩
  · rcases acts_of_ready ready with ⟨-, acts⟩ | ⟨-, acts⟩
    · exact ⟨[], acts⟩
    · exact ⟨[.closePlace], acts⟩
  · rw [eq_place_of_mem opened]
    exact Settings.place_eq_database_iff
  · -- What is closed has been served.
    rcases closed with ⟨earlier, acts, -⟩
    have closes : .closePlace ∈ course.acts := by
      rw [acts]
      exact List.mem_concat_self
    by_cases serves : .serve ∈ course.deeds
    · exact serves
    · exact absurd ((Course.mem_acts_iff rfl).1 closes) (closePlace_notMem serves)
  · exact closedLast_of_serves returns
  · exact closePlace_notMem

-- Such an address has no options, and so there is nothing to be said against them.
theorem legible_localhost :
    ∃ address, Database.Address.read "postgres://localhost/rules" = .ok address := by
  have check : Database.Address.check {
      scheme := "postgres", host := "localhost".toList, path := "/rules".toList, options := [] } =
        .ok () := by
    unfold Database.Address.check
    rw [Database.Address.pairs_nil]
    rfl
  unfold Database.Address.read
  exact ⟨_, congrArg (· >>= fun _ => pure _) check⟩

-- A database with migrations, where the serving is ended by a signal.
theorem lifecycle_law_database :
    let url := "postgres://localhost/rules"
    let settings := { Settings.standard with databaseUrl := some url }
    let outcomes : Outcomes := ⟨.ok (), .ok (), .ok (), .signal⟩
    let course := launch settings outcomes
    let socket : Socket := .four [0, 0, 0, 0] 8000
    Ready settings outcomes socket ∧ course.ending = .finished ∧
      .openPlace (.database url) ∈ course.deeds ∧ .migrate ∈ course.deeds ∧ course.ClosedLast := by
  intro url settings outcomes course socket
  have connects : Connects settings outcomes url := ⟨legible_localhost, by decide, rfl⟩
  have admitted : ∃ origins, Origins.ofList? settings.origins = .ok origins := ⟨_, rfl⟩
  have ready : Ready settings outcomes socket :=
    ⟨⟨admitted, by decide +kernel, rfl⟩, fun _ h => Place.database.inj h ▸ connects,
      fun _ _ _ => rfl⟩
  have finished : course.ending = .finished := by
    rcases launch_cases settings outcomes with ⟨_, _, on⟩ | ⟨refused, -⟩
    · exact on.ending
    · exact absurd ready (refused socket)
  have law := lifecycle_law settings outcomes
  rcases law.2.1 socket ready with ⟨closing, acts⟩
  have early : ∀ deed ∈ settings.preparations, deed ∈ course.acts := by
    intro deed h
    rw [acts]
    exact List.mem_append_left _ h
  have opened : .openPlace (.database url) ∈ course.deeds :=
    (Course.mem_acts_iff rfl).1 (early _ (by decide))
  exact ⟨ready, finished, opened, (Course.mem_acts_iff rfl).1 (early _ (by decide)),
    (law.2.2.2.2 (.inl finished) _ opened).1.2 (law.1.2 ⟨socket, ready⟩)⟩

/-- The address to listen at is not one. The run has opened the memory by then, comes to
    its end by a failure, and does not close what it has opened. -/
theorem refused_address_unclosed :
    let settings := { Settings.standard with listenAddress := "bad" }
    let course := launch settings ⟨.ok (), .ok (), .ok (), .signal⟩
    Settings.readSettings (fun _ => none) ["--listen-addr", "bad"] = .ok settings ∧
      .openPlace .memory ∈ course.deeds ∧
      course.ending = .failed { text := Socket.refusalMessage } ∧ course.Returns ∧
      ¬ course.ClosedLast ∧ .closePlace ∉ course.deeds := by
  intro settings course
  have ending : course.ending = .failed { text := Socket.refusalMessage } := by decide +kernel
  have unclosed : .closePlace ∉ course.deeds := by decide +kernel
  refine ⟨by rfl, by decide +kernel, ending, .inr ⟨_, ending⟩, ?_, unclosed⟩
  rintro ⟨earlier, acts, -⟩
  refine unclosed ((Course.mem_acts_iff rfl).1 ?_)
  rw [acts]
  exact List.mem_concat_self

end Launch

end Rulebook

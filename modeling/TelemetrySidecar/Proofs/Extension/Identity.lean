import TelemetrySidecar.Proofs.Extension.Client
import TelemetrySidecar.Proofs.Http.Exchange
import TelemetrySidecar.Proofs.Telemetry.Batch
import TelemetrySidecar.Proofs.Text.Utf8
import TelemetrySidecar.Proofs.Trace

/-
  The identity of an extension

  A client registers, perhaps several times, and asks for events in between. Hosts may
  answer each request with anything, redirect it or stay silent; a call that is never
  answered is given up.

  What is proved: a response issues a registration exactly if it has status 200, a
  readable body that is blank or describes one, and an identifier in its header
  (`registrationOf_eq_ok_iff`). Over every life of a client its identifier is the header's
  of the last registration that succeeded; requests for the next event carry it, and none
  is sent before there is one (`identity_kept`).
-/

namespace TelemetrySidecar.ExtensionClient

/-! ## What a response issues -/

/-- Visible text is encoded as the octets it was read from, and these can stand in a header. -/
theorem visibleText?_eq_some {octets : List UInt8} {text : String}
    (h : visibleText? octets = some text) :
    Text.encode text = octets ∧ Http.isHeaderValue octets = true := by
  unfold visibleText? at h
  split at h
  · rename_i visible
    simp only [List.all_eq_true, Bool.or_eq_true, beq_iff_eq, Bool.and_eq_true,
      decide_eq_true_eq] at visible
    cases h
    refine ⟨Text.encode_of_forall_lt fun octet inside => ?_,
      List.all_eq_true.mpr fun octet inside => ?_⟩
    · rcases visible octet inside with rfl | ⟨_, below⟩
      · decide
      · omega
    · rcases visible octet inside with rfl | ⟨above, below⟩
      · decide
      · have other : octet.toNat ≠ 127 := by omega
        simp [above, other]
  · cases h

/-- The identifier in the header of a response, if it is visible text. -/
def issuedIdentifier? (response : Response) : Option String :=
  (response.headers.find? identifierField).bind visibleText?

/-- The response is one a registration succeeds with: it has status 200, a body that
can be read and an identifier in its header, and the body is blank or describes a
registration. The identifier of the registration is the header's. -/
def Issues (response : Response) (registration : Registration) : Prop :=
  response.status = 200 ∧ ∃ body identifier, response.text = .ok body ∧
    issuedIdentifier? response = some identifier ∧
    ((Text.allBlank body.toList = true ∧ registration = { extensionId := identifier }) ∨
      (Text.allBlank body.toList = false ∧ ∃ described, Registration.ofText body = .ok described ∧
        registration = { described with extensionId := identifier }))

theorem bodyOf_eq_ok_iff {endpoint body : String} {response : Response} :
    bodyOf endpoint response = .ok body ↔ response.status = 200 ∧ response.text = .ok body := by
  unfold bodyOf
  simp only [bind_eq_ok_iff, mapError_eq_ok_iff]
  by_cases success : response.status = 200
  · simp [success, pure_eq_ok_iff]
  · simp [success, throw, throwThe, MonadExceptOf.throw]

theorem registrationOf_eq_ok_iff {endpoint : String} {response : Response}
    {registration : Registration} :
    registrationOf endpoint response = .ok registration ↔ Issues response registration := by
  unfold registrationOf Issues
  have header : (response.headers.find? identifierField).bind visibleText? =
      issuedIdentifier? response := rfl
  simp only [bind_eq_ok_iff, bodyOf_eq_ok_iff, header]
  cases issuedIdentifier? response with
  | none => simp [throw, throwThe, MonadExceptOf.throw]
  | some identifier =>
    simp only [Option.some.injEq]
    constructor
    · rintro ⟨body, ⟨success, text⟩, reads⟩
      refine ⟨success, body, identifier, text, rfl, ?_⟩
      split at reads
      · rename_i blank
        cases reads
        exact .inl ⟨blank, rfl⟩
      · rename_i written
        obtain ⟨described, reads, made⟩ := bind_eq_ok_iff.mp reads
        exact .inr ⟨by simpa using written, described, mapError_eq_ok_iff.mp reads,
          pure_eq_ok_iff.mp made⟩
    · rintro ⟨success, body, _, text, rfl, ⟨blank, rfl⟩ | ⟨written, described, reads, rfl⟩⟩
      · refine ⟨body, ⟨success, text⟩, ?_⟩
        rw [if_pos blank]
        rfl
      · refine ⟨body, ⟨success, text⟩, ?_⟩
        rw [if_neg (by simp [written])]
        exact bind_eq_ok_iff.mpr ⟨described, mapError_eq_ok_iff.mpr reads, rfl⟩

namespace Issues

variable {response : Response} {registration registration' : Registration}

/-- The identifier of a registration is the header's, whatever the body says. -/
theorem identifier (h : Issues response registration) :
    issuedIdentifier? response = some registration.extensionId := by
  obtain ⟨_, _, identifier, _, header, ⟨_, rfl⟩ | ⟨_, _, _, rfl⟩⟩ := h
  · exact header
  · exact header

/-- A response issues one registration at most. -/
theorem unique (h : Issues response registration) (h' : Issues response registration') :
    registration = registration' := by
  have issued : registrationOf "" response = .ok registration := registrationOf_eq_ok_iff.mpr h
  have issued' : registrationOf "" response = .ok registration' := registrationOf_eq_ok_iff.mpr h'
  exact Except.ok.inj (issued.symm.trans issued')

end Issues

/-! ## What a call comes to -/

/-- What a registration comes to, with the exchanges it took: it succeeds if the last of
them was answered with a response that issues a registration, and only then changes the
client. -/
inductive Registers (client : ExtensionClient) :
    Option (Except ExtensionError Registration × ExtensionClient) → Log → Prop where
  | issued {response : Response} {registration : Registration} {more : Log}
      (last : more.response? = some response) (issues : Issues response registration) :
      Registers client (some (.ok registration,
        { client with identifier := some registration.extensionId })) more
  | failed {error : ExtensionError} {more : Log}
      (unissued : ∀ response, more.response? = some response →
        ∀ registration, ¬ Issues response registration) :
      Registers client (some (.error error, client)) more
  | waiting {more : Log}
      (unissued : ∀ response, more.response? = some response →
        ∀ registration, ¬ Issues response registration) :
      Registers client none more

theorem success_not_mem_redirections : 200 ∉ Http.redirections := by decide

theorem register_registers (host : Host) (client : ExtensionClient) (name : String) (log : Log) :
    ∃ result more, (client.register host name).run.run log = (result, log ++ more) ∧
      Registers client result more := by
  obtain ⟨outcome, more, sent, followed, _⟩ := Http.send_followed host false "POST"
    (client.endpoint "register") [(nameField, Text.encode name), jsonContent]
    (Text.encode wantedEvents.toText) log
  -- A last response that issues a registration redirects nowhere, so it is the outcome.
  have unissued (other : ∀ response, outcome ≠ some (.ok response)) :
      ∀ response, more.response? = some response →
        ∀ registration, ¬ Issues response registration := by
    intro response last registration issues
    exact other response (followed.final last (issues.1 ▸ success_not_mem_redirections))
  match outcome, sent, followed, unissued with
  | none, sent, _, unissued =>
    exact ⟨none, more, Talk.run_bind_of_none sent, .waiting (unissued (by simp))⟩
  | some (.error fault), sent, _, unissued =>
    exact ⟨_, more, Talk.run_bind_of_some sent, .failed (unissued (by simp))⟩
  | some (.ok response), sent, followed, _ =>
    have last := followed.last rfl
    cases read : registrationOf (client.endpoint "register") response with
    | ok registration =>
      exact ⟨_, more, register_of_answered sent read,
        .issued last (registrationOf_eq_ok_iff.mp read)⟩
    | error error =>
      refine ⟨some (.error error, client), more, ?_, .failed ?_⟩
      · refine (Talk.run_bind_of_some sent).trans ?_
        simp only [read]
        rfl
      · intro response' last' registration issues
        cases last.symm.trans last'
        cases read.symm.trans (registrationOf_eq_ok_iff.mpr issues)

/-- What asking for the next event comes to, with the exchanges it took. -/
inductive Polls (client : ExtensionClient) :
    Option (Except ExtensionError LifecycleEvent) → Log → Prop where
  | unregistered (unissued : client.identifier = none) :
      Polls client (some (.error .notRegistered)) []
  | asked {identifier : String} {result : Option (Except ExtensionError LifecycleEvent)}
      {more : Log} (current : client.identifier = some identifier)
      (known : result ≠ some (.error .notRegistered))
      (carried : ∀ e ∈ more, e.request.headers = [(identifierField, Text.encode identifier)])
      (asks : Http.isHeaderValue (Text.encode identifier) = true →
        (Url.read? (client.endpoint "event/next")).isSome → more ≠ []) :
      Polls client result more

theorem eventOf_ne_notRegistered {endpoint : String} {response : Response} :
    eventOf endpoint response ≠ .error .notRegistered := by
  unfold eventOf bodyOf
  cases response.text with
  | error fault => simp [Except.mapError, bind, Except.bind]
  | ok body =>
    by_cases success : response.status = 200
    · cases read : LifecycleEvent.ofText body with
      | error fault => simp [success, read, Except.mapError, bind, Except.bind, pure, Except.pure]
      | ok event => simp [success, read, Except.mapError, bind, Except.bind, pure, Except.pure]
    · simp [success, Except.mapError, bind, Except.bind, throw, throwThe, MonadExceptOf.throw]

theorem nextEvent_polls (host : Host) (client : ExtensionClient) (log : Log) :
    ∃ result more, (client.nextEvent host).run.run log = (result, log ++ more) ∧
      Polls client result more := by
  unfold nextEvent
  cases current : client.identifier with
  | none =>
    refine ⟨_, [], ?_, .unregistered current⟩
    rw [List.append_nil]
    rfl
  | some identifier =>
    obtain ⟨outcome, more, sent, followed, asks⟩ := Http.send_followed host false "GET"
      (client.endpoint "event/next") [(identifierField, Text.encode identifier)] [] log
    have carried := followed.kept rfl
    have asks : Http.isHeaderValue (Text.encode identifier) = true →
        (Url.read? (client.endpoint "event/next")).isSome → more ≠ [] :=
      fun fit reads => asks reads (by simpa using fit)
    match outcome, sent with
    | none, sent =>
      exact ⟨none, more, Talk.run_bind_of_none sent, .asked current (by simp) carried asks⟩
    | some (.error fault), sent =>
      exact ⟨_, more, Talk.run_bind_of_some sent, .asked current (by simp) carried asks⟩
    | some (.ok response), sent =>
      exact ⟨_, more, Talk.run_bind_of_some sent,
        .asked current (by simpa using eventOf_ne_notRegistered) carried asks⟩

/-! ## A life of calls -/

/-- A call of a client. -/
inductive Call where
  | register (name : String)
  | nextEvent

/-- What a call is answered. -/
inductive Answer where
  | registered (result : Except ExtensionError Registration)
  | event (result : Except ExtensionError LifecycleEvent)

/-- A client, and all exchanges so far. -/
structure Life where
  client : ExtensionClient
  log : Log

/-- The answer of a call, and the client after it. -/
def perform (host : Host) (client : ExtensionClient) : Call → Talk (Answer × ExtensionClient)
  | .register name => do
    let (result, client) ← client.register host name
    return (.registered result, client)
  | .nextEvent => do
    let result ← client.nextEvent host
    return (.event result, client)

namespace Life

/-- The answer of one more call, and the life after it. A call that is never answered
is given up, which leaves the client as it was. -/
def call (host : Host) (life : Life) (c : Call) : Option Answer × Life :=
  match (life.client.perform host c).run.run life.log with
  | (some (answer, client), log) => (some answer, ⟨client, log⟩)
  | (none, log) => (none, ⟨life.client, log⟩)

/-- Calls are taken one after the other; none is refused. -/
def step (host : Host) (life : Life) (c : Call) : Option Life := some (life.call host c).2

theorem call_register (host : Host) (life : Life) (name : String) :
    ∃ result more, Registers life.client result more ∧
      life.call host (.register name) = (result.map fun r => .registered r.1,
        ⟨(result.map (·.2)).getD life.client, life.log ++ more⟩) := by
  obtain ⟨result, more, run, registers⟩ := register_registers host life.client name life.log
  refine ⟨result, more, registers, ?_⟩
  unfold call perform
  cases result with
  | none =>
    rw [Talk.run_bind_of_none run]
    rfl
  | some answered =>
    rw [Talk.run_bind_of_some run]
    rfl

theorem call_nextEvent (host : Host) (life : Life) :
    ∃ result more, Polls life.client result more ∧
      life.call host .nextEvent = (result.map .event, ⟨life.client, life.log ++ more⟩) := by
  obtain ⟨result, more, run, polls⟩ := nextEvent_polls host life.client life.log
  refine ⟨result, more, polls, ?_⟩
  unfold call perform
  cases result with
  | none =>
    rw [Talk.run_bind_of_none run]
    rfl
  | some answered =>
    rw [Talk.run_bind_of_some run]
    rfl

end Life

/-- A call that was taken, with the lives before and after it. -/
abbrev Moment := Transition Life Call

namespace Moment

/-- What the call was answered; nothing if it was given up. -/
def answer? (host : Host) (m : Moment) : Option Answer := (m.before.call host m.label).1

/-- The exchanges that the call took. -/
def exchanges (m : Moment) : Log := m.after.log.drop m.before.log.length

/-- The call is a registration, and it succeeded. -/
def Succeeded (host : Host) (m : Moment) : Prop :=
  ∃ registration, m.answer? host = some (.registered (.ok registration))

/-- The identifier header of the last response, if the call is a registration that succeeded. -/
def issued? (host : Host) (m : Moment) : Option String :=
  match m.answer? host with
  | some (.registered (.ok _)) => m.exchanges.response?.bind issuedIdentifier?
  | _ => none

/-- The identifier header of the last registration that succeeded. -/
def lastIssued? (host : Host) (past : List Moment) : Option String :=
  (past.filterMap (issued? host)).getLast?

/-- The client of a life that had the calls `past`: its identifier is the header's of the last
registration that succeeded, and it has none if none did. -/
structure Current (host : Host) (past : List Moment) (client : ExtensionClient) : Prop where
  issued : client.identifier = lastIssued? host past
  unissued : client.identifier = none ↔ ∀ m ∈ past, ¬ m.Succeeded host

/-- What a call does after those before it. -/
structure Obeys (host : Host) (earlier : List Moment) (m : Moment) : Prop where
  current : Current host earlier m.before.client
  /-- A registration succeeds if and only if its last response issues what it is answered with. -/
  succeeds : ∀ name registration, m.label = .register name →
    (m.answer? host = some (.registered (.ok registration)) ↔
      ∃ response, m.exchanges.response? = some response ∧ Issues response registration)
  /-- A registration that succeeds is answered with the header's identifier. -/
  named : ∀ registration, m.answer? host = some (.registered (.ok registration)) →
    m.issued? host = some registration.extensionId ∧
      m.after.client = { m.before.client with identifier := some registration.extensionId }
  /-- Any other call leaves the client exactly as it was. -/
  kept : ¬ m.Succeeded host → m.after.client = m.before.client
  /-- A request for the next event carries the current identifier. -/
  carried : m.label = .nextEvent → ∀ e ∈ m.exchanges, ∃ identifier,
    m.before.client.identifier = some identifier ∧
      e.request.headers = [(identifierField, Text.encode identifier)]
  /-- Without an identifier, and only then, asking for the next event is refused. -/
  refused : m.label = .nextEvent → (m.answer? host = some (.event (.error .notRegistered)) ↔
    m.before.client.identifier = none)
  /-- Without an identifier no request for the next event is sent. -/
  unsent : m.label = .nextEvent → m.before.client.identifier = none → m.exchanges = []
  /-- With an identifier one is sent, if the address of the client is one. -/
  sent : m.label = .nextEvent → ∀ identifier, m.before.client.identifier = some identifier →
    (Url.read? (m.before.client.endpoint "event/next")).isSome → m.exchanges ≠ []

variable {host : Host} {earlier : List Moment} {m : Moment}

theorem lastIssued?_snoc :
    lastIssued? host (earlier ++ [m]) = (m.issued? host).or (lastIssued? host earlier) := by
  unfold lastIssued?
  rw [filterMap_snoc]
  cases m.issued? host with
  | none => simp
  | some identifier => simp

/-- A current identifier was read from some header. -/
theorem Current.visible {client : ExtensionClient} {identifier : String}
    (h : Current host earlier client) (identified : client.identifier = some identifier) :
    ∃ octets, visibleText? octets = some identifier := by
  have last : (earlier.filterMap (issued? host)).getLast? = some identifier :=
    h.issued.symm.trans identified
  obtain ⟨m, _, issued⟩ := List.mem_filterMap.mp (List.mem_of_getLast? last)
  unfold issued? at issued
  split at issued
  · obtain ⟨response, _, header⟩ := Option.bind_eq_some_iff.mp issued
    obtain ⟨octets, _, visible⟩ := Option.bind_eq_some_iff.mp header
    exact ⟨octets, visible⟩
  · cases issued

theorem issued?_eq_none (failed : ¬ m.Succeeded host) : m.issued? host = none := by
  unfold issued?
  split
  · rename_i registration answered
    exact absurd ⟨registration, answered⟩ failed
  · rfl

/-- What a registration does after the calls before it. -/
theorem obeys_register {name : String} {result : Option (Except ExtensionError Registration ×
    ExtensionClient)} {more : Log} (current : Current host earlier m.before.client)
    (label : m.label = .register name) (registers : Registers m.before.client result more)
    (answered : m.answer? host = result.map fun r => .registered r.1)
    (client : m.after.client = (result.map (·.2)).getD m.before.client)
    (exchanged : m.exchanges = more) : Obeys host earlier m := by
  have unasked : m.label ≠ .nextEvent := by simp [label]
  have failed (unissued : ∀ response, more.response? = some response →
      ∀ registration, ¬ Issues response registration)
      (unnamed : ∀ registration, m.answer? host ≠ some (.registered (.ok registration)))
      (kept : m.after.client = m.before.client) : Obeys host earlier m := by
    refine ⟨current, fun _ registration _ => ⟨fun h => absurd h (unnamed registration), ?_⟩,
      fun registration h => absurd h (unnamed registration), fun _ => kept,
      fun h => absurd h unasked, fun h => absurd h unasked, fun h => absurd h unasked,
      fun h => absurd h unasked⟩
    rintro ⟨response, last, issues⟩
    exact absurd issues (unissued response (exchanged ▸ last) registration)
  cases registers with
  | failed unissued => exact failed unissued (by simp [answered]) (by simpa using client)
  | waiting unissued => exact failed unissued (by simp [answered]) (by simpa using client)
  | @issued response registration _ last issues =>
    have answered : m.answer? host = some (.registered (.ok registration)) := answered
    refine ⟨current, ?_, ?_, fun h => absurd ⟨registration, answered⟩ h,
      fun h => absurd h unasked, fun h => absurd h unasked, fun h => absurd h unasked,
      fun h => absurd h unasked⟩
    · intro _ registration' _
      rw [answered, exchanged, last]
      constructor
      · intro h
        cases h
        exact ⟨response, rfl, issues⟩
      · rintro ⟨_, same, issues'⟩
        cases same
        rw [issues.unique issues']
    · intro registration' h
      cases answered.symm.trans h
      refine ⟨?_, client⟩
      unfold issued?
      rw [answered]
      dsimp only
      rw [exchanged, last]
      exact issues.identifier

/-- What asking for the next event does after the calls before it. -/
theorem obeys_nextEvent {result : Option (Except ExtensionError LifecycleEvent)} {more : Log}
    (current : Current host earlier m.before.client)
    (label : m.label = .nextEvent) (polls : Polls m.before.client result more)
    (answered : m.answer? host = result.map .event) (client : m.after.client = m.before.client)
    (exchanged : m.exchanges = more) : Obeys host earlier m := by
  have unnamed (registration : Registration) :
      m.answer? host ≠ some (.registered (.ok registration)) := by
    rw [answered]
    cases result with
    | none | some => simp
  refine ⟨current, fun name _ h => by simp [label] at h, fun _ h => absurd h (unnamed _),
    fun _ => client, fun _ => ?_, fun _ => ?_, fun _ unissued => ?_,
    fun _ identifier identified reads => ?_⟩
  · rw [exchanged]
    cases polls with
    | unregistered unissued => simp
    | asked known _ carried _ => exact fun e he => ⟨_, known, carried e he⟩
  · rw [answered]
    cases polls with
    | unregistered unissued => simp [unissued]
    | @asked identifier result _ known other =>
      refine iff_of_false ?_ (by simp [known])
      intro h
      obtain ⟨_, rfl, h⟩ := Option.map_eq_some_iff.mp h
      cases h
      exact other rfl
  · rw [exchanged]
    cases polls with
    | unregistered => rfl
    | asked known => simp [known] at unissued
  · rw [exchanged]
    obtain ⟨octets, visible⟩ := current.visible identified
    obtain ⟨encoded, fit⟩ := visibleText?_eq_some visible
    cases polls with
    | unregistered unissued => simp [unissued] at identified
    | asked known _ _ asks =>
      cases known.symm.trans identified
      exact asks (encoded ▸ fit) reads

theorem obeys (taken : Life.step host m.before m.label = some m.after)
    (current : Current host earlier m.before.client) : Obeys host earlier m := by
  have after : (m.before.call host m.label).2 = m.after := Option.some.inj taken
  cases label : m.label with
  | register name =>
    obtain ⟨result, more, registers, called⟩ := m.before.call_register host name
    rw [← label] at called
    have after := after.symm.trans (congrArg (·.2) called)
    exact obeys_register current label registers (congrArg (·.1) called)
      (by rw [after]) (by simp [exchanges, after])
  | nextEvent =>
    obtain ⟨result, more, polls, called⟩ := m.before.call_nextEvent host
    rw [← label] at called
    have after := after.symm.trans (congrArg (·.2) called)
    exact obeys_nextEvent current label polls (congrArg (·.1) called)
      (by rw [after]) (by simp [exchanges, after])

/-- What is current after a call. -/
theorem Obeys.current_after (h : Obeys host earlier m) :
    Current host (earlier ++ [m]) m.after.client := by
  by_cases succeeded : m.Succeeded host
  · have ⟨registration, answered⟩ := succeeded
    obtain ⟨issued, client⟩ := h.named registration answered
    constructor
    · rw [lastIssued?_snoc, issued, client]
      rfl
    · simp [client, succeeded, or_imp, forall_and]
  · constructor
    · rw [lastIssued?_snoc, issued?_eq_none succeeded, h.kept succeeded]
      exact h.current.issued
    · rw [h.kept succeeded, h.current.unissued]
      simp [succeeded, or_imp, forall_and]

theorem current_of_trace {first life : Life} {past : List Moment}
    (new : first.client.identifier = none) (h : Trace (Life.step host) first past life) :
    Current host past life.client := by
  induction h with
  | start => exact ⟨new, by simp [new]⟩
  | @next past s t call before taken ih =>
    -- What a call does after those before it makes its own identifier current.
    exact (obeys (m := ⟨s, call, t⟩) taken ih).current_after

end Moment

/-- Calls are never refused. -/
theorem Life.exists_follow (host : Host) (calls : List Call) : ∀ life : Life,
    ∃ past later, follow (Life.step host) calls life = some (past, later) := by
  induction calls with
  | nil => exact fun life => ⟨[], life, rfl⟩
  | cons call calls ih =>
    intro life
    obtain ⟨past, later, followed⟩ := ih (life.call host call).2
    exact ⟨⟨life, call, (life.call host call).2⟩ :: past, later, by
      simp [follow, Life.step, followed]⟩

/-- Over every life of a client, whatever the hosts answer, the identifier is that of the
last registration that succeeded, and each call obeys it. -/
theorem identity_kept (host : Host) (runtimeUrl : String) (log : Log) (calls : List Call) :
    ∃ past life, follow (Life.step host) calls ⟨{ runtimeUrl }, log⟩ = some (past, life) ∧
      Moment.Current host past life.client ∧
      ∀ earlier m later, past = earlier ++ m :: later → Moment.Obeys host earlier m := by
  obtain ⟨past, life, followed⟩ := Life.exists_follow host calls ⟨{ runtimeUrl }, log⟩
  have trace := Trace.start.follow followed
  refine ⟨past, life, followed, Moment.current_of_trace rfl trace, ?_⟩
  rintro earlier m later rfl
  obtain ⟨before, taken⟩ := trace.cut
  exact Moment.obeys taken (Moment.current_of_trace rfl before)

end TelemetrySidecar.ExtensionClient

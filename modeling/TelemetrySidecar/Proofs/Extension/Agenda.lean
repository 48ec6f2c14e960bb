import TelemetrySidecar.Proofs.Extension.Client
import TelemetrySidecar.Proofs.Extension.Service

/-
  The agenda of a run

  What a run has asked for and what it has learned follow from its stage: up to the
  start of the receiver one way (`opening`), then with or without a subscription
  and with any number of polls (`Polling`), then to a stop (`Closing`).

  What is proved: in every state of a run the operations performed and the notices
  taken are those of its stage (`agenda`), and what the stages of a run come to is
  the first failure among the notices (`Closing.outcome_eq`). Stages are reached: a
  run beside a host that answers everything comes to its last event, with a batch
  accepted on the way (`exists_briefPolled`).
-/

namespace TelemetrySidecar

namespace ExtensionRun

/-- What a run asks for up to the start of the receiver. -/
def opening (s : Settings) : List Operation :=
  [.register s.extension.name, .retrieve s.collector.configUris, .start]

/-- A run goes on from such a subscription. -/
inductive Tolerated (required : Bool) : Except SubscriptionError String → Prop where
  | succeeded {body : String} : Tolerated required (.ok body)
  | notSupported {endpoint : String} : Tolerated required (.error (.notSupported endpoint))
  | optional {e : SubscriptionError} (optional : required = false) : Tolerated required (.error e)

/-- What a run has learned and asked for when it may ask for an event. -/
inductive Polling (s : Settings) (registration : Registration) :
    List Notice → List Operation → Prop where
  | disabled {c : Configuration} (off : s.telemetry.enabled = false) :
      Polling s registration [.registered (.ok registration), .resolved (.ok c), .started (.ok ())]
        (opening s)
  | subscribed {c : Configuration} {uri : String} {outcome : Except SubscriptionError String}
      (on : s.telemetry.enabled = true) (tolerated : Tolerated s.telemetry.required outcome) :
      Polling s registration
        [.registered (.ok registration), .resolved (.ok c), .started (.ok ()), .subscribed outcome]
        (opening s ++ [.subscribe registration.extensionId uri])
  | invoked {notices : List Notice} {operations : List Operation} {deadlineMs : Nat}
      {requestId arn : String} (before : Polling s registration notices operations) :
      Polling s registration (notices ++ [.polled (.ok (.invoke deadlineMs requestId arn))])
        (operations ++ [.poll (some registration.extensionId)])

/-- What a run has learned and asked for when it is to stop, and what its stages
came to. -/
inductive Closing (s : Settings) (registration : Registration) :
    List Notice → List Operation → RunResult → Prop where
  | unstarted {c : Configuration} {e : CoordinatorError ReceiverError} :
      Closing s registration
        [.registered (.ok registration), .resolved (.ok c), .started (.error e)]
        (opening s) (.error (.notStarted e))
  | unsubscribed {c : Configuration} {uri : String} {e : SubscriptionError}
      (on : s.telemetry.enabled = true) (fatal : ¬ Tolerated s.telemetry.required (.error e)) :
      Closing s registration
        [.registered (.ok registration), .resolved (.ok c), .started (.ok ()),
          .subscribed (.error e)]
        (opening s ++ [.subscribe registration.extensionId uri]) (.error (.notSubscribed e))
  | shutDown {notices : List Notice} {operations : List Operation} {reason : ShutdownReason}
      {deadlineMs : Nat} (before : Polling s registration notices operations) :
      Closing s registration (notices ++ [.polled (.ok (.shutdown reason deadlineMs))])
        (operations ++ [.poll (some registration.extensionId)]) (.ok ())
  | unpolled {notices : List Notice} {operations : List Operation} {e : ExtensionError}
      (before : Polling s registration notices operations) :
      Closing s registration (notices ++ [.polled (.error e)])
        (operations ++ [.poll (some registration.extensionId)]) (.error (.noEvent e))
  /-- Whether it waits for an event or not. -/
  | left {notices : List Notice} {operations asked : List Operation}
      (before : Polling s registration notices operations)
      (waits : asked = [] ∨ asked = [.poll (some registration.extensionId)]) :
      Closing s registration (notices ++ [.left]) (operations ++ asked) (.ok ())
  | unsignalled {notices : List Notice} {operations asked : List Operation}
      (before : Polling s registration notices operations)
      (waits : asked = [] ∨ asked = [.poll (some registration.extensionId)]) :
      Closing s registration (notices ++ [.noSignals]) (operations ++ asked) (.error .noSignals)

/-- What a run has learned and asked for at its stage, given its registration and
the identifier that its client uses. -/
inductive Agenda (s : Settings) (registration : Registration) (identifier : Option String) :
    Stage → List Notice → List Operation → Prop where
  | absent (nowhere : s.runtimeUrl = none) :
      Agenda s registration identifier (.finished (.error .noRuntimeApi)) [] []
  | toRegister (somewhere : s.runtimeUrl.isSome) :
      Agenda s registration identifier .toRegister [] []
  | unanswered :
      Agenda s registration identifier .stuck [] [.register s.extension.name]
  | unregistered {e : ExtensionError} :
      Agenda s registration identifier (.finished (.error (.notRegistered e)))
        [.registered (.error e)] [.register s.extension.name]
  | toResolve (identified : identifier = some registration.extensionId) :
      Agenda s registration identifier .toResolve [.registered (.ok registration)]
        [.register s.extension.name]
  | unretrieved :
      Agenda s registration identifier .stuck [.registered (.ok registration)]
        [.register s.extension.name, .retrieve s.collector.configUris]
  | unresolved {e : ResolveError} :
      Agenda s registration identifier (.finished (.error (.notResolved e)))
        [.registered (.ok registration), .resolved (.error e)]
        [.register s.extension.name, .retrieve s.collector.configUris]
  | toStart {c : Configuration} (identified : identifier = some registration.extensionId) :
      Agenda s registration identifier (.toStart c)
        [.registered (.ok registration), .resolved (.ok c)]
        [.register s.extension.name, .retrieve s.collector.configUris]
  | starting {c : Configuration} (identified : identifier = some registration.extensionId) :
      Agenda s registration identifier .starting
        [.registered (.ok registration), .resolved (.ok c)] (opening s)
  | toSubscribe {c : Configuration} (identified : identifier = some registration.extensionId)
      (on : s.telemetry.enabled = true) :
      Agenda s registration identifier .toSubscribe
        [.registered (.ok registration), .resolved (.ok c), .started (.ok ())] (opening s)
  | toPoll {notices : List Notice} {operations : List Operation}
      (identified : identifier = some registration.extensionId)
      (polling : Polling s registration notices operations) :
      Agenda s registration identifier .toPoll notices operations
  | polled {notices : List Notice} {operations : List Operation}
      {answer : Option (Except ExtensionError LifecycleEvent)}
      (identified : identifier = some registration.extensionId)
      (polling : Polling s registration notices operations) :
      Agenda s registration identifier (.polled answer) notices
        (operations ++ [.poll (some registration.extensionId)])
  | toStop {notices : List Notice} {operations : List Operation} {outcome : RunResult}
      (closing : Closing s registration notices operations outcome) :
      Agenda s registration identifier (.toStop outcome) notices operations
  | stopping {notices : List Notice} {operations : List Operation} {outcome : RunResult}
      (closing : Closing s registration notices operations outcome) :
      Agenda s registration identifier (.stopping outcome) notices (operations ++ [.stop])
  | toDrop {notices : List Notice} {operations : List Operation} {outcome : RunResult}
      {answer : Coordinator.Answer ReceiverError}
      (closing : Closing s registration notices operations outcome) :
      Agenda s registration identifier (.toDrop (resultOf outcome answer))
        (notices ++ [.stopped answer]) (operations ++ [.stop])
  | toJoin {notices : List Notice} {operations : List Operation} {outcome : RunResult}
      {answer : Coordinator.Answer ReceiverError}
      (closing : Closing s registration notices operations outcome) :
      Agenda s registration identifier (.toJoin (resultOf outcome answer))
        (notices ++ [.stopped answer]) (operations ++ [.stop])
  | finished {notices : List Notice} {operations : List Operation} {outcome : RunResult}
      {answer : Coordinator.Answer ReceiverError}
      (closing : Closing s registration notices operations outcome) :
      Agenda s registration identifier (.finished (resultOf outcome answer))
        (notices ++ [.stopped answer]) (operations ++ [.stop])

theorem not_tolerated_iff {required : Bool} {e : SubscriptionError} :
    ¬ Tolerated required (.error e) ↔
      required = true ∧ ∀ endpoint, e ≠ .notSupported endpoint := by
  constructor
  · intro fatal
    constructor
    · cases required with
      | true => rfl
      | false => exact absurd (.optional rfl) fatal
    · rintro endpoint rfl
      exact fatal .notSupported
  · rintro ⟨required, supported⟩ tolerated
    cases tolerated with
    | notSupported => exact supported _ rfl
    | optional optional => simp [required] at optional

theorem failure?_of_tolerated {required : Bool} {outcome : Except SubscriptionError String}
    (h : Tolerated required outcome) : (Notice.subscribed outcome).failure? required = none := by
  cases h with
  | succeeded | notSupported => rfl
  | @optional e optional =>
    cases e with
    | notSupported => rfl
    | unanswered | badStatus | bodyCut | badBuffering =>
      simp [Notice.failure?, subscriptionFailed, optional]

theorem failure?_of_fatal {required : Bool} {e : SubscriptionError}
    (h : ¬ Tolerated required (.error e)) :
    (Notice.subscribed (.error e)).failure? required = some (.notSubscribed e) := by
  obtain ⟨required, supported⟩ := not_tolerated_iff.mp h
  cases e with
  | notSupported => exact absurd rfl (supported _)
  | unanswered | badStatus | bodyCut | badBuffering =>
    simp [Notice.failure?, subscriptionFailed, required]

/-! ## What the stages come to -/

section

variable {s : Settings} {registration : Registration} {notices : List Notice}
  {operations : List Operation} {outcome : RunResult}

/-- Nothing has failed when a run may ask for an event. -/
theorem Polling.unfailed (h : Polling s registration notices operations) :
    ∀ n ∈ notices, n.failure? s.telemetry.required = none ∧ ∀ answer, n ≠ .stopped answer := by
  induction h with
  | disabled => simp [Notice.failure?]
  | subscribed _ tolerated =>
    simp only [List.forall_mem_cons]
    have unfailed := failure?_of_tolerated tolerated
    exact ⟨by simp [Notice.failure?], by simp [Notice.failure?], by simp [Notice.failure?],
      ⟨unfailed, by simp⟩, by simp⟩
  | invoked _ ih =>
    rw [List.forall_mem_append, List.forall_mem_singleton]
    exact ⟨ih, rfl, by simp⟩

/-- What a run is to stop for is the first failure that it learned of. -/
theorem Closing.outcome_eq (h : Closing s registration notices operations outcome) :
    outcome = match notices.findSome? (Notice.failure? s.telemetry.required) with
      | some e => .error e
      | none => .ok () := by
  have unfailed : ∀ {notices operations}, Polling s registration notices operations →
      notices.findSome? (Notice.failure? s.telemetry.required) = none := by
    intro notices operations polling
    rw [List.findSome?_eq_none_iff]
    exact fun n hn => (polling.unfailed n hn).1
  cases h with
  | unstarted => rfl
  | @unsubscribed _ _ e _ fatal =>
    have failed : subscriptionFailed s.telemetry.required e = some (.notSubscribed e) :=
      failure?_of_fatal fatal
    simp only [List.findSome?_cons, failed, Notice.failure?]
  | shutDown before | unpolled before | left before | unsignalled before =>
    simp [List.findSome?_append, unfailed before, Notice.failure?]

/-- A run stops at its first failure, so there is no other one. -/
theorem Closing.failure_eq (h : Closing s registration notices operations outcome) :
    ∀ n ∈ notices, (∀ e, n.failure? s.telemetry.required = some e → outcome = .error e) ∧
      ∀ answer, n ≠ .stopped answer := by
  have unfailed : ∀ {notices operations}, Polling s registration notices operations →
      ∀ n ∈ notices, (∀ e, n.failure? s.telemetry.required = some e → outcome = .error e) ∧
        ∀ answer, n ≠ .stopped answer := by
    intro notices operations polling n hn
    obtain ⟨unfailed, unstopped⟩ := polling.unfailed n hn
    exact ⟨by simp [unfailed], unstopped⟩
  cases h with
  | unstarted => simp [Notice.failure?]
  | unsubscribed _ fatal =>
    simp only [List.forall_mem_cons]
    refine ⟨by simp [Notice.failure?], by simp [Notice.failure?], by simp [Notice.failure?],
      ⟨?_, by simp⟩, by simp⟩
    intro f hfailure
    rw [failure?_of_fatal fatal] at hfailure
    rw [Option.some.inj hfailure]
  | shutDown before | unpolled before | left before | unsignalled before =>
    rw [List.forall_mem_append, List.forall_mem_singleton]
    exact ⟨unfailed before, by simp [Notice.failure?]⟩

end

/-! ## From stage to stage -/

section

variable {around : Resolver.Surroundings} {r q : ExtensionRun} {label : Label}
  {notice : Option Notice} {s : Settings} {notices : List Notice}

/-- Where a run that may ask for an event is left, it may have asked or not. -/
theorem Agenda.of_isPolling {registration : Registration} {identifier : Option String}
    {operations : List Operation}
    (h : Agenda s registration identifier r.stage notices operations) (polls : r.isPolling = true) :
    ∃ before asked, operations = before ++ asked ∧ Polling s registration notices before ∧
      (asked = [] ∨ asked = [.poll (some registration.extensionId)]) := by
  rcases stage_of_isPolling polls with stage | ⟨answer, stage⟩
  · rw [stage] at h
    cases h with
    | toPoll _ polling => exact ⟨operations, [], by simp, polling, .inl rfl⟩
  · rw [stage] at h
    cases h with
    | polled _ polling => exact ⟨_, _, rfl, polling, .inr rfl⟩

theorem Agenda.ofStart {registration : Registration} {identifier : Option String}
    {c : Configuration} (identified : identifier = some registration.extensionId)
    (answer : Coordinator.Answer ReceiverError) :
    Agenda s registration identifier (Stage.ofStart s.telemetry.enabled answer)
      [.registered (.ok registration), .resolved (.ok c), .started answer] (opening s) := by
  cases answer with
  | error e => exact .toStop .unstarted
  | ok =>
    unfold Stage.ofStart
    cases enabled : s.telemetry.enabled with
    | true => exact .toSubscribe identified enabled
    | false => exact .toPoll identified (.disabled enabled)

theorem Agenda.ofSubscription {registration : Registration} {identifier : Option String}
    {c : Configuration} (identified : identifier = some registration.extensionId)
    (on : s.telemetry.enabled = true) (uri : String)
    (outcome : Except SubscriptionError String) :
    Agenda s registration identifier (Stage.ofSubscription s.telemetry.required outcome)
      [.registered (.ok registration), .resolved (.ok c), .started (.ok ()), .subscribed outcome]
      (opening s ++ [.subscribe registration.extensionId uri]) := by
  unfold Stage.ofSubscription
  by_cases tolerated : Tolerated s.telemetry.required outcome
  · rw [failure?_of_tolerated tolerated]
    exact .toPoll identified (.subscribed on tolerated)
  · rcases outcome with e | body
    · rw [failure?_of_fatal tolerated]
      exact .toStop (.unsubscribed on tolerated)
    · exact absurd .succeeded tolerated

theorem Agenda.ofPoll {registration : Registration} {identifier : Option String}
    {operations : List Operation} (identified : identifier = some registration.extensionId)
    (polling : Polling s registration notices operations)
    (answer : Except ExtensionError LifecycleEvent) :
    Agenda s registration identifier (Stage.ofPoll answer) (notices ++ [.polled answer])
      (operations ++ [.poll (some registration.extensionId)]) := by
  rcases answer with e | ⟨_, _, _⟩ | ⟨_, _⟩
  · exact .toStop (.unpolled polling)
  · exact .toPoll identified (.invoked polling)
  · exact .toStop (.shutDown polling)

/-- Every move leads from the agenda of a stage to that of the next one. -/
theorem Agenda.move
    (h : Agenda s r.registration r.client.identifier r.stage notices r.operations)
    (m : Move around r label q notice) (settings : r.settings = s)
    (reachable : r.stage = .toSubscribe → r.listener? around ≠ none) :
    Agenda s q.registration q.client.identifier q.stage (notices ++ notice.toList)
      q.operations := by
  subst settings
  -- What was asked for before is a variable, for the agenda to be taken apart.
  obtain ⟨operations, hops⟩ : ∃ operations, operations = r.operations := ⟨_, rfl⟩
  rw [← hops] at h
  cases m with
  | unanswered stage =>
    rw [stage] at h
    cases h
    simp only [note, ← hops]
    exact .unanswered
  | unregistered stage =>
    rw [stage] at h
    cases h
    simp only [note, ← hops]
    exact .unregistered
  | registers stage out =>
    rw [stage] at h
    cases h
    simp only [note, ← hops]
    exact .toResolve (ExtensionClient.identifier_of_register out)
  | unretrieved stage =>
    rw [stage] at h
    cases h
    simp only [note, ← hops]
    exact .unretrieved
  | unresolved stage =>
    rw [stage] at h
    cases h
    simp only [note, ← hops]
    exact .unresolved
  | resolves stage =>
    rw [stage] at h
    cases h with
    | toResolve identified =>
      simp only [note, ← hops]
      exact .toStart identified
  | startWaits stage =>
    rw [stage] at h
    cases h with
    | toStart identified =>
      simp only [note, ← hops]
      exact .starting identified
  | @startAnswers _ _ answer stage =>
    rw [stage] at h
    cases h with
    | toStart identified =>
      simp only [note, ← hops]
      exact .ofStart identified answer
  | unreachable stage listener => exact absurd listener (reachable stage)
  | @subscribes uri outcome _ stage =>
    rw [stage] at h
    cases h with
    | toSubscribe identified on =>
      simp only [note, ← hops]
      exact .ofSubscription identified on uri outcome
  | polls stage =>
    rw [stage] at h
    cases h with
    | toPoll identified polling =>
      simp only [note, ← hops, identified, Option.toList_none, List.append_nil]
      exact .polled rfl polling
  | @hears answer stage =>
    rw [stage] at h
    cases h with
    | polled identified polling =>
      simp only [← hops]
      exact .ofPoll identified polling answer
  | stopWaits stage =>
    rw [stage] at h
    cases h with
    | toStop closing =>
      simp only [note, ← hops, Option.toList_none, List.append_nil]
      exact .stopping closing
  | stopAnswers stage =>
    rw [stage] at h
    cases h with
    | toStop closing =>
      simp only [note, ← hops]
      exact .toDrop closing
  | drops stage =>
    rw [stage] at h
    cases h with
    | toDrop closing =>
      simp only [← hops, Option.toList_none, List.append_nil]
      exact .toJoin closing
  | joins stage =>
    rw [stage] at h
    cases h with
    | toJoin closing =>
      simp only [← hops, Option.toList_none, List.append_nil]
      exact .finished closing
  | @startEnds _ _ _ answer _ stage =>
    rw [stage] at h
    cases h with
    | starting identified =>
      simp only [← hops]
      exact .ofStart identified answer
  | stopEnds _ stage =>
    rw [stage] at h
    cases h with
    | stopping closing =>
      simp only [← hops]
      exact .toDrop closing
  | leaves polls =>
    obtain ⟨before, asked, rfl, polling, waits⟩ := h.of_isPolling polls
    simp only [← hops]
    exact .toStop (.left polling waits)
  | unsignalled polls =>
    obtain ⟨before, asked, rfl, polling, waits⟩ := h.of_isPolling polls
    simp only [← hops]
    exact .toStop (.unsignalled polling waits)
  | waits | receiver | intake | consumes | cancels =>
    simp only [← hops, Option.toList_none, List.append_nil]
    exact h

end

/-! ## Over a run -/

/-- What a run has learned, in order. -/
def notices (around : Resolver.Surroundings) (past : List (Transition ExtensionRun Label)) :
    List Notice :=
  past.filterMap fun m => m.before.notice? around m.label

section

variable {around : Resolver.Surroundings} {s : Settings} {r : ExtensionRun}
  {past : List (Transition ExtensionRun Label)}

theorem notices_append (m : Transition ExtensionRun Label) :
    notices around (past ++ [m]) =
      notices around past ++ (m.before.notice? around m.label).toList :=
  filterMap_snoc ..

theorem settings_eq (h : Trace (step around) (ofSettings s) past r) : r.settings = s := by
  induction h with
  | start => rfl
  | next _ taken ih => exact (move_of_step taken).settings.trans ih

/-- In every state of a run its stage tells what it has learned and asked for. -/
theorem agenda (h : Trace (step around) (ofSettings s) past r) :
    Agenda s r.registration r.client.identifier r.stage (notices around past) r.operations := by
  induction h with
  | start =>
    unfold ofSettings
    cases hurl : s.runtimeUrl with
    | none => exact .absent hurl
    | some url => exact .toRegister (by simp [hurl])
  | next before taken ih =>
    rw [notices_append]
    refine ih.move (move_of_step taken) (settings_eq before) ?_
    intro stage
    obtain ⟨port, -, listener⟩ := listener_of_toSubscribe before stage
    simp [listener]

end

/-! ## A run to its last event

A host takes registrations, knows nothing of telemetry, and asks the extension to
shut down. The receiver is given a port and accepts a batch before the run
subscribes. -/

/-- The answer to a registration, which issues an identifier. -/
def issued : Response := { headers := [(identifierField, Text.encode "one")] }

/-- The answer to a poll, which asks the extension to shut down. -/
def lastEvent : Response where
  body := Text.encode
    "\x7b\"eventType\":\"SHUTDOWN\",\"shutdownReason\":\"spindown\",\"deadlineMs\":1\x7d"

def brief : Host := fun _ request =>
  if request.method = "POST" then .answered issued
  else if request.method = "PUT" then .answered { status := 202 }
  else .answered lastEvent

def besideBrief : Resolver.Surroundings := ⟨.empty, .empty, brief⟩

def briefSettings : Settings :=
  { runtimeApi := some "h", collector := { configUris := ["yaml:"] },
    telemetry := { required := true } }

def briefClient : ExtensionClient := { runtimeUrl := "http://h", identifier := some "one" }

/-- A run beside that host after its registration. -/
def briefRun (stage : Stage) (log : Log) (operations : List Operation)
    (coordinator : Coordinator Receiver) (intake : Intake) : ExtensionRun where
  settings := briefSettings
  stage
  log
  operations := .register briefSettings.extension.name :: operations
  client := briefClient
  registration := { extensionId := "one" }
  coordinator
  intake

/-- The run while its receiver serves. -/
def briefServing (stage : Stage) (log : Log) (operations : List Operation) (intake : Intake) :
    ExtensionRun :=
  briefRun stage log (.retrieve ["yaml:"] :: .start :: operations)
    { state := .running
      service := some { published := .running, port := some 4317, phase := .serving }
      completion := .pending
      builds := 1 }
    intake

/-- An intake that has taken nothing, with its handlers. -/
def unfilled (handlers : List Handler) : Intake :=
  { channel := { capacity := batchCapacity }, handlers }

/-- An intake that has accepted one batch. -/
def oneAccepted : Intake where
  channel := { capacity := batchCapacity, queue := [[]] }
  handlers := [.answered 200]
  counter := 1
  accepted := [[]]

theorem registrationOf_issued (endpoint : String) :
    ExtensionClient.registrationOf endpoint issued = .ok { extensionId := "one" } := by
  have body : ExtensionClient.bodyOf endpoint issued = .ok "" := rfl
  have field : issued.headers.find? identifierField = some (Text.encode "one") := by
    simp [Headers.find?, issued]
  have visible : ExtensionClient.visibleText? (Text.encode "one") = some "one" :=
    ExtensionClient.visibleText?_encode (by simp)
  unfold ExtensionClient.registrationOf
  simp only [body, field, Option.bind_some, visible]
  rfl

theorem isHeaderValue_one : Http.isHeaderValue (Text.encode "one") = true :=
  Http.isHeaderValue_encode (by simp)

theorem brief_registers : ∃ later, (ofSettings briefSettings).step besideBrief .go =
    some (briefRun .toResolve later [] {} (unfilled [])) := by
  have reads : Url.read? ((ofSettings briefSettings).client.endpoint "register") =
      some ⟨false, "h", "/2020-01-01/extension/register"⟩ := by decide
  have named : Http.isHeaderValue (Text.encode briefSettings.extension.name) = true :=
    Http.isHeaderValue_encode (by simp [briefSettings])
  have fit : ([(nameField, Text.encode briefSettings.extension.name), jsonContent] : Headers).all
      (fun h => Http.isHeaderValue h.2) = true := by
    simp [named, Http.isHeaderValue_jsonContent]
  have sent : (Http.send brief false "POST" _ _
      (Text.encode ExtensionClient.wantedEvents.toText)).run.run [] = (some (.ok issued), _) :=
    Http.send_of_answered false reads fit rfl (by decide)
  exact ⟨_, Move.step (.registers rfl
    (ExtensionClient.register_of_answered sent (registrationOf_issued _)))⟩

theorem brief_subscribes (log : Log) : ∃ later,
    (briefServing .toSubscribe log [] oneAccepted).step besideBrief .go =
      some (briefServing .toPoll later [.subscribe "one" "http://127.0.0.1:4317"] oneAccepted) := by
  let client : SubscriptionClient := { runtimeUrl := "http://h", types := [.platform] }
  have listener : (briefServing .toSubscribe log [] oneAccepted).listener? besideBrief =
      some "http://127.0.0.1:4317" := by
    have listens : Address.listener .empty 4317 = "http://127.0.0.1:4317" := by decide
    exact congrArg some listens
  have reads : Url.read? client.endpoint = some ⟨false, "h", "/2022-07-01/telemetry"⟩ := by
    decide
  have fit : ([(identifierField, Text.encode "one"), jsonContent] : Headers).all
      (fun h => Http.isHeaderValue h.2) = true := by
    simp [isHeaderValue_one, Http.isHeaderValue_jsonContent]
  have sent : (Http.send brief true "PUT" _ _
      (Text.encode (client.subscription "http://127.0.0.1:4317").value.toText)).run.run log =
        (some (.ok { status := 202 }), _) :=
    Http.send_of_answered true reads fit rfl (by decide)
  have answered : (briefServing .toSubscribe log [] oneAccepted).subscribing besideBrief
      "http://127.0.0.1:4317" = (some (.error (.notSupported client.endpoint)), _) :=
    SubscriptionClient.subscribe_of_answered rfl sent
  exact ⟨_, Move.step (.subscribes rfl listener answered)⟩

theorem brief_polls (log : Log) (operations : List Operation) : ∃ later,
    (briefServing .toPoll log operations oneAccepted).step besideBrief .go =
      some (briefServing (.polled (some (.ok (.shutdown .spindown 1)))) later
        (operations ++ [.poll (some "one")]) oneAccepted) := by
  have reads : Url.read? (briefClient.endpoint "event/next") =
      some ⟨false, "h", "/2020-01-01/extension/event/next"⟩ := by decide
  have fit : ([(identifierField, Text.encode "one")] : Headers).all
      (fun h => Http.isHeaderValue h.2) = true := by simp [isHeaderValue_one]
  have sent : (Http.send brief false "GET" _ _ []).run.run log = (some (.ok lastEvent), _) :=
    Http.send_of_answered false reads fit rfl (by decide)
  have event : ExtensionClient.eventOf (briefClient.endpoint "event/next") lastEvent =
      .ok (.shutdown .spindown 1) := by
    refine eq_ok_of_toOption ?_
    decide +kernel
  have answered := ExtensionClient.nextEvent_of_answered rfl sent
  rw [event] at answered
  exact ⟨_, Move.step (.polls rfl answered)⟩

/-- The run when its last event has come, and the consumer has still to receive. -/
def briefPolled (log : Log) : ExtensionRun :=
  briefServing (.polled (some (.ok (.shutdown .spindown 1)))) log
    [.subscribe "one" "http://127.0.0.1:4317", .poll (some "one")] oneAccepted

theorem exists_briefPolled : ∃ past log,
    Trace (step besideBrief) (ofSettings briefSettings) past (briefPolled log) ∧
    ∀ m ∈ past, m.label ≠ .receiver .fail := by
  obtain ⟨registered, registers⟩ := brief_registers
  obtain ⟨subscribed, subscribes⟩ := brief_subscribes registered
  obtain ⟨polled, polls⟩ := brief_polls subscribed [.subscribe "one" "http://127.0.0.1:4317"]
  let body : List UInt8 := Text.encode "[]"
  obtain ⟨first, starts⟩ : ∃ first, follow (step besideBrief)
      [.go, .go, .receiver .check, .receiver (.bind (.ok 4317)), .receiver .record,
        .receiver .announce, .look, .intake (.request body)]
      (briefRun .toResolve registered [] {} (unfilled [])) =
        some (first, briefServing .toSubscribe registered [] (unfilled [.toRead body])) := ⟨_, rfl⟩
  have decodes : Batch.ofOctets body = .ok [] := by
    have isEmpty : (Batch.ofOctets (Text.encode "[]")).toOption.any List.isEmpty = true := by
      decide +kernel
    obtain ⟨batch, decoded, isEmpty⟩ := (Option.any_eq_true ..).mp isEmpty
    rw [eq_ok_of_toOption decoded, List.isEmpty_iff.mp isEmpty]
  have reads : (briefServing .toSubscribe registered [] (unfilled [.toRead body])).step besideBrief
      (.intake (.handle 0)) =
        some (briefServing .toSubscribe registered [] (unfilled [.toOffer []])) := by
    refine Move.step (.intake rfl ?_)
    simp [Intake.step, Intake.advance, decodes, briefServing, briefRun, unfilled]
  obtain ⟨second, accepts⟩ : ∃ second, follow (step besideBrief)
      [.intake (.handle 0), .intake (.handle 0)]
      (briefServing .toSubscribe registered [] (unfilled [.toOffer []])) =
        some (second, briefServing .toSubscribe registered [] oneAccepted) := ⟨_, rfl⟩
  have ready := (((Trace.start.next registers).follow starts).next reads).follow accepts
  refine ⟨_, polled, (ready.next subscribes).next polls, ?_⟩
  intro m hm failed
  have taken := List.mem_map_of_mem (f := (·.label)) hm
  rw [failed] at taken
  simp [labels_of_follow starts, labels_of_follow accepts] at taken

/-- How a run comes to wait for its consumer after its last event. -/
def waiting : List Label := [.go, .go, .receiver .close, .receiver .finish, .look, .go]

/-- What the consumer does then, until the run is over. -/
def draining : List Label := [.intake .receive, .consumed, .go]

end ExtensionRun

end TelemetrySidecar

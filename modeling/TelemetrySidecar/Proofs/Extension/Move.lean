import TelemetrySidecar.Extension.Run.Basic
import TelemetrySidecar.Proofs.Http.Deadline
import TelemetrySidecar.Proofs.Trace

/-
  What a run can do

  `ExtensionRun.step` computes the next state of a run from what happens. Here its
  results are listed once, each with its condition and with what the run learns in
  the step (`Move`), so that what holds along a run is proved move by move.

  What is proved: the list holds the results of all steps (`move_of_step`) and no
  others (`Move.step`).
-/

namespace TelemetrySidecar.ExtensionRun

/-- What a run learns in a step. -/
inductive Notice where
  | registered (outcome : Except ExtensionError Registration)
  | resolved (outcome : Except ResolveError Configuration)
  | started (answer : Coordinator.Answer ReceiverError)
  | noListener
  | subscribed (outcome : Except SubscriptionError String)
  | polled (outcome : Except ExtensionError LifecycleEvent)
  /-- Somebody outside wants the run to end. -/
  | left
  | noSignals
  | stopped (answer : Coordinator.Answer ReceiverError)

/-- The failure of the run that a notice is. Not every subscription that fails is one. -/
def Notice.failure? (required : Bool) : Notice → Option RunError
  | registered (.error e) => some (.notRegistered e)
  | resolved (.error e) => some (.notResolved e)
  | started (.error e) => some (.notStarted e)
  | noListener => some .noListener
  | subscribed (.error e) => subscriptionFailed required e
  | polled (.error e) => some (.noEvent e)
  | noSignals => some .noSignals
  | stopped (.error e) => some (.notStopped e)
  | _ => none

/-! ## What comes of the run's own steps -/

section

variable (around : Resolver.Surroundings) (r : ExtensionRun)

def registering : Option (Except ExtensionError Registration × ExtensionClient) × Log :=
  (r.client.register around.host r.settings.extension.name).run.run r.log

def resolving : Option (Except ResolveError Configuration) × Log :=
  (Resolver.standard around r.settings.collector.configUris).resolve.run.run.run r.log

def starting (configuration : Configuration) :
    Coordinator Receiver × Option (Coordinator.Answer ReceiverError) :=
  r.coordinator.start (Receiver.ofConfiguration (Address.isHosted around.env) configuration)

def subscribing (uri : String) : Option (Except SubscriptionError String) × Log :=
  (r.subscriptionClient.subscribe around.host r.registration.extensionId uri).run.run r.log

def polling : Option (Except ExtensionError LifecycleEvent) × Log :=
  (r.client.nextEvent around.host).run.run r.log

/-- The step of the coordinator's call that a label is. -/
def Label.call? : Label → Option (Coordinator.Label Receiver Receiver.Event ReceiverError)
  | .look => some .look
  | .expire => some .expire
  | _ => none

/-- What the run learns when the coordinator's call goes on. -/
def awaited? (call : Coordinator.Label Receiver Receiver.Event ReceiverError) : Option Notice :=
  match (r.coordinator.step Receiver.kind call).bind (·.2), r.stage with
  | some answer, .starting => some (.started answer)
  | some answer, .stopping _ => some (.stopped answer)
  | _, _ => none

/-- What the run learns in its own next step. -/
def goNotice? : Option Notice :=
  match r.stage with
  | .toRegister => (r.registering around).1.map fun p => .registered p.1
  | .toResolve => (r.resolving around).1.map .resolved
  | .toStart configuration => (r.starting around configuration).2.map .started
  | .toSubscribe =>
    match r.listener? around with
    | none => some .noListener
    | some uri => (r.subscribing around uri).1.map .subscribed
  | .polled answer => answer.map .polled
  | .toStop _ => (r.coordinator.stop Receiver.kind).2.map .stopped
  | _ => none

/-- What the run learns in a step. -/
def notice? : Label → Option Notice
  | .go => r.goNotice? around
  | .look => r.awaited? .look
  | .expire => r.awaited? .expire
  | .leave => some .left
  | .unsignalled => some .noSignals
  | _ => none

end

/-! ## Where a run goes from an answer -/

def Stage.ofStart (enabled : Bool) : Coordinator.Answer ReceiverError → Stage
  | .error e => .toStop (.error (.notStarted e))
  | .ok () => if enabled then .toSubscribe else .toPoll

theorem afterStart_eq (r : ExtensionRun) (answer : Coordinator.Answer ReceiverError) :
    r.afterStart answer =
      { r with stage := Stage.ofStart r.settings.telemetry.enabled answer } := by
  cases answer with
  | error | ok => rfl

def Stage.ofSubscription (required : Bool) (outcome : Except SubscriptionError String) : Stage :=
  match (Notice.subscribed outcome).failure? required with
  | some e => .toStop (.error e)
  | none => .toPoll

def Stage.ofPoll : Except ExtensionError LifecycleEvent → Stage
  | .ok (.invoke ..) => .toPoll
  | .ok (.shutdown ..) => .toStop (.ok ())
  | .error e => .toStop (.error (.noEvent e))

theorem afterPoll_eq (r : ExtensionRun) (answer : Except ExtensionError LifecycleEvent) :
    r.afterPoll answer = { r with stage := Stage.ofPoll answer } := by
  rcases answer with e | ⟨_, _, _⟩ | ⟨_, _⟩
  · rfl
  · rfl
  · rfl

/-! ## The list -/

/-- All that may follow on a state, with the label and what the run learns. -/
inductive Move (around : Resolver.Surroundings) (r : ExtensionRun) :
    Label → ExtensionRun → Option Notice → Prop where
  | unanswered {log : Log} (stage : r.stage = .toRegister)
      (out : r.registering around = (none, log)) :
      Move around r .go
        { r.note (.register r.settings.extension.name) with log, stage := .stuck } none
  | unregistered {e : ExtensionError} {client : ExtensionClient} {log : Log}
      (stage : r.stage = .toRegister)
      (out : r.registering around = (some (.error e, client), log)) :
      Move around r .go
        { r.note (.register r.settings.extension.name) with
            log, client, stage := .finished (.error (.notRegistered e)) }
        (some (.registered (.error e)))
  | registers {registration : Registration} {client : ExtensionClient} {log : Log}
      (stage : r.stage = .toRegister)
      (out : r.registering around = (some (.ok registration, client), log)) :
      Move around r .go
        { r.note (.register r.settings.extension.name) with
            log, client, registration, stage := .toResolve }
        (some (.registered (.ok registration)))
  | unretrieved {log : Log} (stage : r.stage = .toResolve)
      (out : r.resolving around = (none, log)) :
      Move around r .go
        { r.note (.retrieve r.settings.collector.configUris) with log, stage := .stuck } none
  | unresolved {e : ResolveError} {log : Log} (stage : r.stage = .toResolve)
      (out : r.resolving around = (some (.error e), log)) :
      Move around r .go
        { r.note (.retrieve r.settings.collector.configUris) with
            log, stage := .finished (.error (.notResolved e)) }
        (some (.resolved (.error e)))
  | resolves {configuration : Configuration} {log : Log} (stage : r.stage = .toResolve)
      (out : r.resolving around = (some (.ok configuration), log)) :
      Move around r .go
        { r.note (.retrieve r.settings.collector.configUris) with
            log, stage := .toStart configuration }
        (some (.resolved (.ok configuration)))
  | startWaits {configuration : Configuration} {coordinator : Coordinator Receiver}
      (stage : r.stage = .toStart configuration)
      (out : r.starting around configuration = (coordinator, none)) :
      Move around r .go { r.note .start with coordinator, stage := .starting } none
  | startAnswers {configuration : Configuration} {coordinator : Coordinator Receiver}
      {answer : Coordinator.Answer ReceiverError} (stage : r.stage = .toStart configuration)
      (out : r.starting around configuration = (coordinator, some answer)) :
      Move around r .go
        { r.note .start with
            coordinator, stage := Stage.ofStart r.settings.telemetry.enabled answer }
        (some (.started answer))
  | unreachable (stage : r.stage = .toSubscribe) (listener : r.listener? around = none) :
      Move around r .go { r with stage := .toStop (.error .noListener) } (some .noListener)
  | subscribes {uri : String} {outcome : Except SubscriptionError String} {log : Log}
      (stage : r.stage = .toSubscribe) (listener : r.listener? around = some uri)
      (out : r.subscribing around uri = (some outcome, log)) :
      Move around r .go
        { r.note (.subscribe r.registration.extensionId uri) with
            log, stage := Stage.ofSubscription r.settings.telemetry.required outcome }
        (some (.subscribed outcome))
  | polls {answer : Option (Except ExtensionError LifecycleEvent)} {log : Log}
      (stage : r.stage = .toPoll) (out : r.polling around = (answer, log)) :
      Move around r .go
        { r.note (.poll r.client.identifier) with log, stage := .polled answer } none
  | hears {answer : Except ExtensionError LifecycleEvent}
      (stage : r.stage = .polled (some answer)) :
      Move around r .go { r with stage := Stage.ofPoll answer } (some (.polled answer))
  | stopWaits {outcome : RunResult} {coordinator : Coordinator Receiver}
      (stage : r.stage = .toStop outcome)
      (out : r.coordinator.stop Receiver.kind = (coordinator, none)) :
      Move around r .go { r.note .stop with coordinator, stage := .stopping outcome } none
  | stopAnswers {outcome : RunResult} {coordinator : Coordinator Receiver}
      {answer : Coordinator.Answer ReceiverError} (stage : r.stage = .toStop outcome)
      (out : r.coordinator.stop Receiver.kind = (coordinator, some answer)) :
      Move around r .go
        { r.note .stop with coordinator, stage := .toDrop (resultOf outcome answer) }
        (some (.stopped answer))
  | drops {result : RunResult} (stage : r.stage = .toDrop result) :
      Move around r .go
        { r with coordinator := r.coordinator.drop Receiver.kind, stage := .toJoin result } none
  | joins {result : RunResult} (stage : r.stage = .toJoin result) (consumed : r.consumed = true) :
      Move around r .go { r with stage := .finished result } none
  | waits {label : Label} {call : Coordinator.Label Receiver Receiver.Event ReceiverError}
      {coordinator : Coordinator Receiver} (calls : label.call? = some call)
      (step : r.coordinator.step Receiver.kind call = some (coordinator, none)) :
      Move around r label { r with coordinator } none
  | startEnds {label : Label} {call : Coordinator.Label Receiver Receiver.Event ReceiverError}
      {coordinator : Coordinator Receiver} {answer : Coordinator.Answer ReceiverError}
      (calls : label.call? = some call) (stage : r.stage = .starting)
      (step : r.coordinator.step Receiver.kind call = some (coordinator, some answer)) :
      Move around r label
        { r with coordinator, stage := Stage.ofStart r.settings.telemetry.enabled answer }
        (some (.started answer))
  | stopEnds {label : Label} {call : Coordinator.Label Receiver Receiver.Event ReceiverError}
      {outcome : RunResult} {coordinator : Coordinator Receiver}
      {answer : Coordinator.Answer ReceiverError} (calls : label.call? = some call)
      (stage : r.stage = .stopping outcome)
      (step : r.coordinator.step Receiver.kind call = some (coordinator, some answer)) :
      Move around r label { r with coordinator, stage := .toDrop (resultOf outcome answer) }
        (some (.stopped answer))
  | receiver {event : Receiver.Event} {coordinator : Coordinator Receiver}
      (allows : r.allows event = true)
      (step : r.coordinator.step Receiver.kind (.service event) = some (coordinator, none)) :
      Move around r (.receiver event) { r with coordinator } none
  | intake {event : Intake.Event} {intake : Intake} (admits : r.admits event = true)
      (step : r.intake.step event = some intake) :
      Move around r (.intake event) { r with intake } none
  | consumes (senderless : r.hasSender = false) (empty : r.intake.channel.queue = []) :
      Move around r .consumed { r with consumed := true } none
  | cancels : Move around r .cancel { r with cancelled := true } none
  | leaves (polling : r.isPolling = true) (cancelled : r.cancelled = true) :
      Move around r .leave { r with stage := .toStop (.ok ()) } (some .left)
  | unsignalled (polling : r.isPolling = true) :
      Move around r .unsignalled { r with stage := .toStop (.error .noSignals) } (some .noSignals)

/-! ## Every step is a move -/

section

variable {around : Resolver.Surroundings} {r q : ExtensionRun}

theorem move_of_register (stage : r.stage = .toRegister) :
    Move around r .go (r.register around)
      ((r.registering around).1.map fun p => .registered p.1) := by
  have hrun : (r.client.register around.host r.settings.extension.name).run.run r.log =
      r.registering around := rfl
  unfold register
  simp only [hrun]
  rcases out : r.registering around with ⟨_ | ⟨e | registration, client⟩, log⟩
  · exact .unanswered stage out
  · exact .unregistered stage out
  · exact .registers stage out

theorem move_of_resolve (stage : r.stage = .toResolve) :
    Move around r .go (r.resolve around) ((r.resolving around).1.map .resolved) := by
  have hrun : (Resolver.standard around r.settings.collector.configUris).resolve.run.run.run r.log =
      r.resolving around := rfl
  unfold resolve
  simp only [hrun]
  rcases out : r.resolving around with ⟨_ | e | configuration, log⟩
  · exact .unretrieved stage out
  · exact .unresolved stage out
  · exact .resolves stage out

theorem move_of_start {configuration : Configuration} (stage : r.stage = .toStart configuration) :
    Move around r .go (r.start around configuration)
      ((r.starting around configuration).2.map .started) := by
  have hrun : r.coordinator.start
      (Receiver.ofConfiguration (Address.isHosted around.env) configuration) =
        r.starting around configuration := rfl
  unfold start
  simp only [hrun]
  rcases out : r.starting around configuration with ⟨coordinator, _ | answer⟩
  · exact .startWaits stage out
  · simp only [Option.map_some, afterStart_eq]
    exact .startAnswers stage out

theorem move_of_subscribe (stage : r.stage = .toSubscribe) :
    Move around r .go (r.subscribe around) (match r.listener? around with
      | none => some .noListener
      | some uri => (r.subscribing around uri).1.map .subscribed) := by
  unfold subscribe
  cases listener : r.listener? around with
  | none => exact .unreachable stage listener
  | some uri =>
    have hrun : (r.subscriptionClient.subscribe around.host r.registration.extensionId uri).run.run
        r.log = r.subscribing around uri := rfl
    have hsome : (r.subscribing around uri).1.isSome := SubscriptionClient.subscribe_isSome ..
    simp only [hrun]
    rcases out : r.subscribing around uri with ⟨_ | e | response, log⟩
    · rw [out] at hsome
      cases hsome
    · have moves := Move.subscribes stage listener out
      unfold Stage.ofSubscription at moves
      simp only [Notice.failure?] at moves
      have hrequired : ∀ operation, (r.note operation).settings = r.settings := fun _ => rfl
      simp only [hrequired]
      cases hfailed : subscriptionFailed r.settings.telemetry.required e with
      | none =>
        simp only [hfailed] at moves
        exact moves
      | some e =>
        simp only [hfailed] at moves
        exact moves
    · exact .subscribes stage listener out

theorem move_of_stop {outcome : RunResult} (stage : r.stage = .toStop outcome) :
    Move around r .go (r.stop outcome) ((r.coordinator.stop Receiver.kind).2.map .stopped) := by
  unfold stop
  rcases out : r.coordinator.stop Receiver.kind with ⟨coordinator, _ | answer⟩
  · exact .stopWaits stage out
  · exact .stopAnswers stage out

theorem move_of_go (h : r.go around = some q) : Move around r .go q (r.goNotice? around) := by
  unfold go at h
  unfold goNotice?
  cases stage : r.stage with
  | toRegister =>
    simp only [stage] at h ⊢
    rw [← Option.some.inj h]
    exact move_of_register stage
  | toResolve =>
    simp only [stage] at h ⊢
    rw [← Option.some.inj h]
    exact move_of_resolve stage
  | toStart configuration =>
    simp only [stage] at h ⊢
    rw [← Option.some.inj h]
    exact move_of_start stage
  | toSubscribe =>
    simp only [stage] at h ⊢
    rw [← Option.some.inj h]
    exact move_of_subscribe stage
  | toPoll =>
    simp only [stage] at h ⊢
    rw [← Option.some.inj h]
    exact .polls stage rfl
  | polled answer =>
    cases answer with
    | none => simp [stage] at h
    | some answer =>
      simp only [stage, afterPoll_eq] at h ⊢
      rw [← Option.some.inj h]
      exact .hears stage
  | toStop outcome =>
    simp only [stage] at h ⊢
    rw [← Option.some.inj h]
    exact move_of_stop stage
  | toDrop result =>
    simp only [stage] at h ⊢
    cases h
    exact .drops stage
  | toJoin result =>
    simp only [stage] at h ⊢
    obtain ⟨consumed, h⟩ := Option.ite_none_right_eq_some.mp h
    cases h
    exact .joins stage consumed
  | starting | stopping | finished | stuck => simp [stage] at h

theorem move_of_await {label : Label}
    {call : Coordinator.Label Receiver Receiver.Event ReceiverError}
    (calls : label.call? = some call) (h : r.await call = some q) :
    Move around r label q (r.awaited? call) := by
  obtain ⟨⟨coordinator, answer⟩, step, h⟩ := Option.bind_eq_some_iff.mp h
  unfold awaited?
  simp only [step, Option.bind_some]
  cases answer with
  | none =>
    cases h
    exact .waits calls step
  | some answer =>
    cases stage : r.stage with
    | starting =>
      simp only [stage, afterStart_eq] at h ⊢
      rw [← Option.some.inj h]
      exact .startEnds calls stage step
    | stopping outcome =>
      simp only [stage] at h ⊢
      cases h
      exact .stopEnds calls stage step
    | toRegister | toResolve | toStart | toSubscribe | toPoll | polled | toStop | toDrop
    | toJoin | finished | stuck => simp [stage] at h

/-- Every result of a step is in the list. -/
theorem move_of_step {label : Label} (h : r.step around label = some q) :
    Move around r label q (r.notice? around label) := by
  cases label with
  | go => exact move_of_go h
  | look => exact move_of_await rfl h
  | expire => exact move_of_await rfl h
  | receiver event =>
    obtain ⟨allows, h⟩ := Option.ite_none_right_eq_some.mp h
    obtain ⟨⟨coordinator, answer⟩, step, h⟩ := Option.map_eq_some_iff.mp h
    cases h
    -- A step of the receiver answers no call of the coordinator.
    have hanswer : answer = none := by
      obtain ⟨s, _, step⟩ := Option.bind_eq_some_iff.mp step
      obtain ⟨s', _, step⟩ := Option.bind_eq_some_iff.mp step
      cases step
      rfl
    exact .receiver allows (hanswer ▸ step)
  | intake event =>
    obtain ⟨admits, h⟩ := Option.ite_none_right_eq_some.mp h
    obtain ⟨intake, step, h⟩ := Option.map_eq_some_iff.mp h
    cases h
    exact .intake admits step
  | consumed =>
    obtain ⟨free, h⟩ := Option.ite_none_left_eq_some.mp h
    cases h
    rw [Bool.not_eq_true, Bool.or_eq_false_iff] at free
    exact .consumes free.1 (by simpa using free.2)
  | cancel => cases h; exact .cancels
  | leave =>
    obtain ⟨ends, h⟩ := Option.ite_none_right_eq_some.mp h
    rw [Bool.and_eq_true] at ends
    cases h
    exact .leaves ends.1 ends.2
  | unsignalled =>
    obtain ⟨polling, h⟩ := Option.ite_none_right_eq_some.mp h
    cases h
    exact .unsignalled polling

/-! ## Every move is a step -/

theorem step_of_call? {label : Label}
    {call : Coordinator.Label Receiver Receiver.Event ReceiverError}
    (calls : label.call? = some call) : r.step around label = r.await call := by
  cases label with
  | look | expire => cases calls; rfl
  | go | receiver | intake | consumed | cancel | leave | unsignalled => cases calls

/-- Every result in the list is that of a step. -/
theorem Move.step {label : Label} {notice : Option Notice} (m : Move around r label q notice) :
    r.step around label = some q := by
  cases m with
  | unanswered stage out | unregistered stage out | registers stage out =>
    unfold registering at out
    simp [ExtensionRun.step, go, stage, register, out, note]
  | unretrieved stage out | unresolved stage out | resolves stage out =>
    unfold resolving at out
    simp [ExtensionRun.step, go, stage, resolve, out, note]
  | startWaits stage out =>
    unfold starting at out
    simp [ExtensionRun.step, go, stage, start, out, note]
  | startAnswers stage out =>
    unfold starting at out
    simp [ExtensionRun.step, go, stage, start, out, note, afterStart_eq]
  | unreachable stage listener =>
    simp [ExtensionRun.step, go, stage, subscribe, listener]
  | @subscribes uri outcome log stage listener out =>
    unfold subscribing at out
    rcases outcome with e | response
    · simp only [ExtensionRun.step, go, stage, subscribe, listener, out, note,
        Stage.ofSubscription, Notice.failure?]
      cases subscriptionFailed r.settings.telemetry.required e with
      | none | some => rfl
    · simp [ExtensionRun.step, go, stage, subscribe, listener, out, note,
        Stage.ofSubscription, Notice.failure?]
  | polls stage out =>
    unfold polling at out
    simp [ExtensionRun.step, go, stage, poll, out, note]
  | hears stage => simp [ExtensionRun.step, go, stage, afterPoll_eq]
  | stopWaits stage out | stopAnswers stage out =>
    simp [ExtensionRun.step, go, stage, stop, out, note]
  | drops stage => simp [ExtensionRun.step, go, stage]
  | joins stage consumed => simp [ExtensionRun.step, go, stage, consumed]
  | waits calls step => simp [step_of_call? calls, await, step]
  | startEnds calls stage step => simp [step_of_call? calls, await, step, stage, afterStart_eq]
  | stopEnds calls stage step => simp [step_of_call? calls, await, step, stage]
  | receiver allows step => simp [ExtensionRun.step, allows, step]
  | intake admits step => simp [ExtensionRun.step, admits, step]
  | consumes senderless empty => simp [ExtensionRun.step, senderless, empty]
  | cancels => rfl
  | leaves polling cancelled => simp [ExtensionRun.step, polling, cancelled]
  | unsignalled polling => simp [ExtensionRun.step, polling]

/-! ## Settings, polls and result -/

variable {label : Label} {notice : Option Notice}

theorem Move.settings (m : Move around r label q notice) : q.settings = r.settings := by
  cases m with
  | _ => rfl

theorem stage_of_isPolling (h : r.isPolling = true) :
    r.stage = .toPoll ∨ ∃ answer, r.stage = .polled answer := by
  cases stage : r.stage with
  | toPoll => exact .inl rfl
  | polled answer => exact .inr ⟨answer, rfl⟩
  | toRegister | toResolve | toStart | starting | toSubscribe | toStop | stopping | toDrop
  | toJoin | finished | stuck => simp [isPolling, stage] at h

theorem stage_of_result? {result : RunResult} (h : r.result? = some result) :
    r.stage = .finished result := by
  unfold result? at h
  split at h
  · rename_i stage
    rw [stage, Option.some.inj h]
  · cases h

end

end TelemetrySidecar.ExtensionRun

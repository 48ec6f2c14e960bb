import TelemetrySidecar.Proofs.Extension.Move
import TelemetrySidecar.Proofs.Service.Shutdown

/-
  Where the coordinator stands in a run

  A run calls its coordinator in a fixed order: a start that is run to its end, a
  stop that is run to its end, and the drop. So the stage of the run tells what
  the coordinator is doing (`Standing`), and what the coordinator did is a patient
  history (`Recorded`).

  What is proved: both hold in every state of a run (`stands`). In particular a
  coordinator that was dropped is one that is given up: no call of it is in
  progress, and nothing is left of its service that goes on (`Stands.givenUp`).
-/

namespace TelemetrySidecar

namespace Coordinator

variable {σ ι ε : Type} {kind : ServiceKind σ ι ε} {timeoutMs : Nat} {c d : Coordinator σ}
  {label : Label σ ι ε} {answer : Option (Answer ε)}

/-- The coordinator came about in a patient history. -/
def Recorded (kind : ServiceKind σ ι ε) (timeoutMs : Nat) (c : Coordinator σ) : Prop :=
  ∃ past, History kind timeoutMs past c ∧ Patient past

theorem Recorded.phase (h : Recorded kind timeoutMs c) : Phase kind c := by
  obtain ⟨past, history, patient⟩ := h
  exact history.phase patient

theorem Recorded.step (h : Recorded kind timeoutMs c)
    (step : c.step kind label = some (d, answer)) (stays : label ≠ .giveUp) :
    Recorded kind timeoutMs d := by
  obtain ⟨past, history, patient⟩ := h
  refine ⟨_, history.next step, patient_append.mpr ⟨patient, ?_⟩⟩
  intro m hm gaveUp
  cases List.mem_singleton.mp hm
  exact absurd gaveUp stays

theorem step_start (rest : c.AtRest) (built : Except ε σ) :
    c.step kind (.start built) = some (c.start built) :=
  if_pos (by simp [rest.1, rest.2])

theorem step_stop (rest : c.AtRest) : c.step kind .stop = some (c.stop kind) :=
  if_pos (by simp [rest.1, rest.2])

theorem step_drop (rest : c.AtRest) : c.step kind .drop = some (c.drop kind, none) :=
  if_pos (by simp [rest.1, rest.2])

/-- Nothing was done yet. -/
def Untouched (c : Coordinator σ) : Prop := ∃ timeoutMs, c = { timeoutMs }

/-- No call is in progress, and nobody has asked the service to shut down. -/
def Idle (c : Coordinator σ) : Prop := c.AtRest ∧ c.latched = false

/-- There is no service, or a stop asked it to shut down and its run has ended. -/
def Settled (kind : ServiceKind σ ι ε) (c : Coordinator σ) : Prop :=
  c.service = none ∨ (c.latched = true ∧ (c.ended kind).isSome)

/-- The coordinator was dropped, and nothing goes on. -/
structure GivenUp (kind : ServiceKind σ ι ε) (c : Coordinator σ) : Prop where
  call : c.call = .none
  dropped : c.dropped = true
  settled : c.Settled kind

namespace Untouched

theorem atRest (h : c.Untouched) : c.AtRest := by
  obtain ⟨_, rfl⟩ := h
  exact ⟨rfl, rfl⟩

theorem unheld (h : c.Untouched) : c.service = none := by
  obtain ⟨_, rfl⟩ := h
  rfl

theorem unbegun (h : c.Untouched) : c.state = .notStarted := by
  obtain ⟨_, rfl⟩ := h
  rfl

/-- A first start waits for the service, or the service was not built. -/
theorem start (h : c.Untouched) {built : Except ε σ}
    (hstart : c.start built = (d, answer)) :
    d.state ≠ .notStarted ∧ d.service = built.toOption ∧
      ((answer = none ∧ d.call = .start none) ∨
        ∃ e, built = .error e ∧ answer = some (.error (.build e)) ∧ d.Idle) := by
  obtain ⟨_, rfl⟩ := h
  cases built with
  | error e =>
    cases hstart
    exact ⟨by simp, rfl, .inr ⟨e, rfl, rfl, ⟨rfl, rfl⟩, rfl⟩⟩
  | ok s =>
    cases hstart
    exact ⟨by simp, rfl, .inl ⟨rfl, rfl⟩⟩

end Untouched

theorem GivenUp.not_atRest (h : c.GivenUp kind) : ¬ c.AtRest := by
  intro rest
  cases rest.2.symm.trans h.dropped

/-- After a stop is called it waits for the end, or nothing goes on. -/
theorem Idle.stop (h : c.Idle) (phase : Phase kind c) (hstop : c.stop kind = (d, answer)) :
    (answer = none ∧ d.call = .stop) ∨ (answer.isSome ∧ d.AtRest ∧ d.Settled kind) := by
  have move := move_of_stop h.1 hstop
  cases move with
  | stopIdle _ unheld => exact .inr ⟨rfl, h.1, .inl unheld⟩
  | stopWaits => exact .inl ⟨rfl, rfl⟩
  | @stopOver s _ service settled =>
    obtain ⟨ended, -⟩ := phase.of_settled h.1.1 service settled
    obtain ⟨s', service', ended'⟩ := asked_service kind service
    refine .inr ⟨rfl, ⟨by simpa using h.1.1, by simpa using h.1.2⟩, .inr ⟨by simp, ?_⟩⟩
    simpa [Coordinator.ended, service', ended'] using ended
  | exited looks | ready looks => simp [Label.Looks] at looks

/-- Nothing is left to be done when a coordinator that stopped is dropped. -/
theorem Settled.drop (h : c.Settled kind) (rest : c.AtRest) : (c.drop kind).GivenUp kind := by
  refine ⟨by simpa using rest.1, by simp, ?_⟩
  rcases h with service | ⟨latched, ended⟩
  · exact .inl (drop_unheld kind service)
  · obtain ⟨how, hended⟩ := Option.isSome_iff_exists.mp ended
    obtain ⟨s, service, hend⟩ := Option.bind_eq_some_iff.mp hended
    obtain ⟨s', service', ended'⟩ := drop_service kind service
    refine .inr ⟨by simpa using latched, ?_⟩
    simp [Coordinator.ended, service', ended', hend]

/-- Nothing happens any more to a service whose run has ended. -/
theorem Settled.happens (h : c.Settled kind) {s s' : σ} {event : ι} (service : c.service = some s)
    (goesOn : kind.step s event = some s') : False := by
  rcases h with unheld | ⟨-, ended⟩
  · rw [service] at unheld
    cases unheld
  · have hend : (kind.ended s).isSome := by simpa [Coordinator.ended, service] using ended
    rw [kind.step_ended s event hend] at goesOn
    cases goesOn

/-- A start that is answered leaves the coordinator idle. -/
theorem idle_of_start_answered (phase : Phase kind c) (move : Move kind c label d answer)
    {seen : Option ServiceState} (call : c.call = .start seen) (answered : answer.isSome) :
    d.Idle := by
  obtain ⟨-, -, latched, dropped, -⟩ := phase.of_start call
  cases move with
  | exited | ready | timedOut => exact ⟨⟨rfl, dropped⟩, latched⟩
  | startAgain rest | unbuilt rest | stopIdle rest | stopOver rest => simp [rest.1] at call
  | stopEnds hcall => cases hcall.symm.trans call
  | built | waits | sees | stopWaits | waitsEnd | givesUp | drops | happens => simp at answered

/-- A stop that is answered leaves nothing that goes on. -/
theorem settled_of_stop_answered (phase : Phase kind c) (move : Move kind c label d answer)
    (call : c.call = .stop) (answered : answer.isSome) : d.AtRest ∧ d.Settled kind := by
  obtain ⟨-, -, latched, dropped, -⟩ := phase.of_stop call
  cases move with
  | stopEnds _ service ended =>
    exact ⟨⟨rfl, dropped⟩, .inr ⟨latched, by simp [Coordinator.ended, service, ended]⟩⟩
  | exited _ hcall | ready _ hcall | timedOut hcall => cases hcall.symm.trans call
  | startAgain rest | unbuilt rest | stopIdle rest | stopOver rest => simp [rest.1] at call
  | built | waits | sees | stopWaits | waitsEnd | givesUp | drops | happens => simp at answered

/-- While a call waits, only a start may learn something. -/
theorem eq_or_start_of_unanswered (move : Move kind c label d none) (looks : label.Looks) :
    d = c ∨
      ((∃ seen, c.call = .start seen) ∧ ∃ seen, d.call = .start seen) := by
  cases move with
  | waits | waitsEnd => exact .inl rfl
  | sees call => exact .inr ⟨⟨_, call⟩, ⟨_, rfl⟩⟩
  | built | stopWaits | givesUp | drops | happens => simp [Label.Looks] at looks

end Coordinator

namespace ExtensionRun

open Coordinator (Untouched Idle Settled GivenUp Recorded)

/-- Where the coordinator stands at a stage of the run. -/
def Standing (c : Coordinator Receiver) : Stage → Prop
  | .toRegister | .toResolve | .toStart _ | .stuck => c.Untouched
  | .starting => ∃ seen, c.call = .start seen
  | .toSubscribe | .toPoll | .polled _ | .toStop _ => c.Idle
  | .stopping _ => c.call = .stop
  | .toDrop _ => c.AtRest ∧ c.Settled Receiver.kind
  | .toJoin _ => c.GivenUp Receiver.kind
  | .finished _ => c.Untouched ∨ c.GivenUp Receiver.kind

/-- How the coordinator stands to a run. -/
structure Stands (r : ExtensionRun) : Prop where
  recorded : Recorded Receiver.kind r.settings.collector.startupTimeoutMs r.coordinator
  standing : Standing r.coordinator r.stage
  begun : .start ∈ r.operations → r.coordinator.state ≠ .notStarted

section

variable {around : Resolver.Surroundings} {r q : ExtensionRun} {label : Label}
  {notice : Option Notice} {c d : Coordinator Receiver} {stage : Stage}

/-- A call that goes on without an answer leaves the coordinator where it stands. -/
theorem Standing.wait (h : Standing c stage)
    {call : Coordinator.Label Receiver Receiver.Event ReceiverError}
    (move : Coordinator.Move Receiver.kind c call d none) (looks : call.Looks) :
    Standing d stage := by
  rcases Coordinator.eq_or_start_of_unanswered move looks with rfl | ⟨⟨seen, hcall⟩, hd⟩
  · exact h
  · cases stage with
    | starting => exact hd
    | toRegister | toResolve | toStart | stuck =>
      have h : c.Untouched := h
      simp [h.atRest.1] at hcall
    | toSubscribe | toPoll | polled | toStop =>
      have h : c.Idle := h
      simp [h.1.1] at hcall
    | stopping => cases hcall.symm.trans h
    | toDrop => simp [h.1.1] at hcall
    | toJoin => simp [h.call] at hcall
    | finished =>
      rcases h with h | h
      · simp [h.atRest.1] at hcall
      · simp [h.call] at hcall

/-- A step of the receiver leaves the coordinator where it stands. -/
theorem Standing.happens (h : Standing c stage) {s s' : Receiver} {event : Receiver.Event}
    (service : c.service = some s) (goesOn : Receiver.kind.step s event = some s') :
    Standing { c with service := some s' } stage := by
  have held : ¬ c.Untouched := by
    intro untouched
    cases service.symm.trans untouched.unheld
  have unsettled : ¬ c.Settled Receiver.kind := fun settled => settled.happens service goesOn
  cases stage with
  | starting | stopping | toSubscribe | toPoll | polled | toStop => exact h
  | toRegister | toResolve | toStart | stuck => exact absurd h held
  | toDrop => exact absurd h.2 unsettled
  | toJoin => exact absurd h.settled unsettled
  | finished =>
    rcases h with h | h
    · exact absurd h held
    · exact absurd h.settled unsettled

/-- What is known of a coordinator that is idle after a start. -/
theorem Standing.ofStart (h : c.Idle) (enabled : Bool)
    (answer : Coordinator.Answer ReceiverError) : Standing c (Stage.ofStart enabled answer) := by
  cases answer with
  | error => exact h
  | ok =>
    cases enabled with
    | true | false => exact h

theorem Standing.ofSubscription (h : c.Idle) (required : Bool)
    (outcome : Except SubscriptionError String) :
    Standing c (Stage.ofSubscription required outcome) := by
  unfold Stage.ofSubscription
  split
  · exact h
  · exact h

theorem Standing.ofPoll (h : c.Idle) (answer : Except ExtensionError LifecycleEvent) :
    Standing c (Stage.ofPoll answer) := by
  rcases answer with e | ⟨_, _, _⟩ | ⟨_, _⟩
  · exact h
  · exact h
  · exact h

theorem Standing.idle_of_isPolling (h : Standing r.coordinator r.stage)
    (polling : r.isPolling = true) : r.coordinator.Idle := by
  rcases stage_of_isPolling polling with stage | ⟨answer, stage⟩
  · rwa [stage] at h
  · rwa [stage] at h

/-- Looking and running out of time are looks of the coordinator's call. -/
theorem looks_of_call? {call : Coordinator.Label Receiver Receiver.Event ReceiverError}
    (calls : label.call? = some call) : call.Looks := by
  cases label with
  | look => cases calls; exact .inl rfl
  | expire => cases calls; exact .inr rfl
  | go | receiver | intake | consumed | cancel | leave | unsignalled => cases calls

theorem ne_giveUp_of_call? {call : Coordinator.Label Receiver Receiver.Event ReceiverError}
    (calls : label.call? = some call) : call ≠ .giveUp := by
  rintro rfl
  have looks := looks_of_call? calls
  simp [Coordinator.Label.Looks] at looks

namespace Stands

theorem new (settings : Settings) : Stands (ofSettings settings) := by
  refine ⟨⟨[], .new, by simp [Coordinator.Patient]⟩, ?_, by simp [ofSettings]⟩
  have untouched : (ofSettings settings).coordinator.Untouched := ⟨_, rfl⟩
  -- Without an address to talk to, the run is over before it has begun.
  unfold ofSettings at untouched ⊢
  dsimp only at untouched ⊢
  split
  · exact untouched
  · exact .inl untouched

/-- Where the run leaves its coordinator alone. -/
theorem keep (h : Stands r) (settings : q.settings = r.settings)
    (coordinator : q.coordinator = r.coordinator)
    (started : .start ∈ q.operations → .start ∈ r.operations)
    (standing : Standing r.coordinator q.stage) : Stands q := by
  refine ⟨by rw [settings, coordinator]; exact h.recorded, by rw [coordinator]; exact standing, ?_⟩
  intro hstart
  rw [coordinator]
  exact h.begun (started hstart)

/-- Where a step of the coordinator goes with that of the run. -/
theorem step (h : Stands r) (settings : q.settings = r.settings)
    {call : Coordinator.Label Receiver Receiver.Event ReceiverError}
    {answer : Option (Coordinator.Answer ReceiverError)}
    (taken : r.coordinator.step Receiver.kind call = some (q.coordinator, answer))
    (stays : call ≠ .giveUp) (started : .start ∈ q.operations → .start ∈ r.operations)
    (standing : Standing q.coordinator q.stage) : Stands q := by
  refine ⟨by rw [settings]; exact h.recorded.step taken stays, standing, ?_⟩
  intro hstart
  exact (Coordinator.move_of_step taken).begun (h.begun (started hstart))

/-- Where the run starts the receiver. -/
theorem start (h : Stands r) (settings : q.settings = r.settings)
    (untouched : r.coordinator.Untouched) {built : Except ReceiverError Receiver}
    {answer : Option (Coordinator.Answer ReceiverError)}
    (out : r.coordinator.start built = (q.coordinator, answer))
    (standing : Standing q.coordinator q.stage) : Stands q := by
  have taken : r.coordinator.step Receiver.kind (.start built) = some (q.coordinator, answer) :=
    (Coordinator.step_start untouched.atRest built).trans (congrArg some out)
  refine ⟨by rw [settings]; exact h.recorded.step taken (by simp), standing, ?_⟩
  intro _
  exact (untouched.start out).1

theorem move (h : Stands r) (m : Move around r label q notice) : Stands q := by
  have settings := m.settings
  have standing := h.standing
  have phase := h.recorded.phase
  cases m with
  | unanswered stage | registers stage | unretrieved stage | resolves stage =>
    rw [stage] at standing
    exact h.keep settings rfl (by simp [note]) standing
  | unregistered stage | unresolved stage =>
    rw [stage] at standing
    exact h.keep settings rfl (by simp [note]) (.inl standing)
  | startWaits stage out =>
    rw [stage] at standing
    have untouched : r.coordinator.Untouched := standing
    refine h.start settings untouched out ?_
    rcases (untouched.start out).2.2 with ⟨-, call⟩ | ⟨_, _, hanswer, _⟩
    · exact ⟨none, call⟩
    · cases hanswer
  | startAnswers stage out =>
    rw [stage] at standing
    have untouched : r.coordinator.Untouched := standing
    refine h.start settings untouched out ?_
    rcases (untouched.start out).2.2 with ⟨hanswer, _⟩ | ⟨_, _, -, idle⟩
    · cases hanswer
    · exact .ofStart idle _ _
  | unreachable stage =>
    rw [stage] at standing
    exact h.keep settings rfl id standing
  | subscribes stage =>
    rw [stage] at standing
    exact h.keep settings rfl (by simp [note]) (.ofSubscription standing _ _)
  | polls stage =>
    rw [stage] at standing
    exact h.keep settings rfl (by simp [note]) standing
  | hears stage =>
    rw [stage] at standing
    exact h.keep settings rfl id (.ofPoll standing _)
  | stopWaits stage out =>
    rw [stage] at standing
    have idle : r.coordinator.Idle := standing
    have taken := (Coordinator.step_stop idle.1).trans (congrArg some out)
    refine h.step settings taken (by simp) (by simp [note]) ?_
    rcases idle.stop phase out with ⟨-, call⟩ | ⟨answered, -⟩
    · exact call
    · cases answered
  | stopAnswers stage out =>
    rw [stage] at standing
    have idle : r.coordinator.Idle := standing
    have taken := (Coordinator.step_stop idle.1).trans (congrArg some out)
    refine h.step settings taken (by simp) (by simp [note]) ?_
    rcases idle.stop phase out with ⟨hanswer, -⟩ | ⟨-, rest, settled⟩
    · cases hanswer
    · exact ⟨rest, settled⟩
  | drops stage =>
    rw [stage] at standing
    obtain ⟨rest, settled⟩ := standing
    exact h.step settings (Coordinator.step_drop rest) (by simp) id (settled.drop rest)
  | joins stage =>
    rw [stage] at standing
    exact h.keep settings rfl id (.inr standing)
  | waits calls taken =>
    refine h.step settings taken (ne_giveUp_of_call? calls) id ?_
    exact standing.wait (Coordinator.move_of_step taken) (looks_of_call? calls)
  | startEnds calls stage taken =>
    rw [stage] at standing
    obtain ⟨seen, call⟩ := standing
    have move := Coordinator.move_of_step taken
    refine h.step settings taken (ne_giveUp_of_call? calls) id ?_
    exact .ofStart (Coordinator.idle_of_start_answered phase move call rfl) _ _
  | stopEnds calls stage taken =>
    rw [stage] at standing
    have move := Coordinator.move_of_step taken
    refine h.step settings taken (ne_giveUp_of_call? calls) id ?_
    exact Coordinator.settled_of_stop_answered phase move standing rfl
  | receiver _ taken =>
    refine h.step settings taken (by simp) id ?_
    cases Coordinator.move_of_step taken with
    | happens service goesOn => exact standing.happens service goesOn
  | intake | consumes | cancels => exact h.keep settings rfl id standing
  | leaves polling | unsignalled polling =>
    exact h.keep settings rfl id (standing.idle_of_isPolling polling)

/-- A coordinator that was dropped is given up. -/
theorem givenUp (h : Stands r) (dropped : r.coordinator.dropped = true) :
    r.coordinator.GivenUp Receiver.kind := by
  have standing := h.standing
  have phase := h.recorded.phase
  have moved : ¬ r.coordinator.AtRest := by
    intro rest
    cases rest.2.symm.trans dropped
  cases stage : r.stage with
  | toRegister | toResolve | toStart | stuck =>
    rw [stage] at standing
    have untouched : r.coordinator.Untouched := standing
    exact absurd untouched.atRest moved
  | starting =>
    rw [stage] at standing
    obtain ⟨seen, call⟩ := standing
    rw [(phase.of_start call).2.2.2.1] at dropped
    cases dropped
  | toSubscribe | toPoll | polled | toStop | toDrop =>
    rw [stage] at standing
    exact absurd standing.1 moved
  | stopping =>
    rw [stage] at standing
    rw [(phase.of_stop standing).2.2.2.1] at dropped
    cases dropped
  | toJoin =>
    rw [stage] at standing
    exact standing
  | finished =>
    rw [stage] at standing
    rcases standing with untouched | givenUp
    · exact absurd untouched.atRest moved
    · exact givenUp

end Stands

/-- In every state of a run the coordinator stands where the stage says. -/
theorem stands {settings : Settings} {past : List (Transition ExtensionRun Label)}
    (h : Trace (step around) (ofSettings settings) past r) : Stands r := by
  induction h with
  | start => exact .new settings
  | next _ taken ih => exact ih.move (move_of_step taken)

end

end ExtensionRun

end TelemetrySidecar

import TelemetrySidecar.Proofs.Extension.Agenda

/-
  The end of a run

  Whatever happens after a run has called the start of its receiver, it leads to
  one stop, and what the stop answers counts only if nothing has failed before.

  What is proved: once a run that called the start is over, it has called one stop,
  the receiver was asked once to shut down if it was built and else never
  (`Stands.shutdowns_of_givenUp`, `built`), and the result is the first failure of a
  stage, else that of the stop (`ended_run_stopped_once`).
-/

namespace TelemetrySidecar

namespace Coordinator

variable {σ ι ε : Type} {kind : ServiceKind σ ι ε} {timeoutMs : Nat} {c : Coordinator σ}

/-- A coordinator that is given up has asked its service once to shut down, if it
had one. -/
theorem Recorded.shutdowns_of_givenUp (h : Recorded kind timeoutMs c) (ended : c.GivenUp kind) :
    c.shutdowns = if c.service.isSome then 1 else 0 := by
  have phase := h.phase
  obtain ⟨past, history, patient⟩ := h
  rw [history.shutdowns.2]
  cases service : c.service with
  | none =>
    have latched : c.latched = false := by
      cases phase with
      | unheld _ _ _ latched => exact latched
      | starting hs | held hs | finished hs => simp [service] at hs
    simp [found, latched, service]
  | some s => simp [found, ended.dropped, service]

end Coordinator

namespace ExtensionRun

section

variable {around : Resolver.Surroundings} {r q : ExtensionRun} {label : Label}
  {notice : Option Notice} {s : Settings} {registration : Registration}
  {notices : List Notice} {operations : List Operation} {outcome : RunResult}

/-! ## One stop -/

theorem Polling.count_stop (h : Polling s registration notices operations) :
    operations.count .stop = 0 := by
  induction h with
  | disabled | subscribed => simp [opening]
  | invoked _ ih => simpa using ih

theorem Closing.count_stop (h : Closing s registration notices operations outcome) :
    operations.count .stop = 0 := by
  cases h with
  | unstarted | unsubscribed => simp [opening]
  | shutDown before | unpolled before => simpa using before.count_stop
  | left before waits | unsignalled before waits =>
    rcases waits with rfl | rfl
    · simpa using before.count_stop
    · simpa using before.count_stop

theorem Agenda.count_stop_le {identifier : Option String} {stage : Stage}
    (h : Agenda s registration identifier stage notices operations) :
    operations.count .stop ≤ 1 := by
  cases h with
  | absent | toRegister | unanswered | unregistered | toResolve | unretrieved | unresolved
  | toStart => simp
  | starting | toSubscribe => simp [opening]
  | toPoll _ polling => simp [polling.count_stop]
  | polled _ polling => simp [polling.count_stop]
  | toStop closing | stopping closing | toDrop closing | toJoin closing | finished closing =>
    simp [closing.count_stop]

/-- A run that is over and called the start has closed with a stop. -/
theorem Agenda.of_started {identifier : Option String} {result : RunResult}
    (h : Agenda s registration identifier (.finished result) notices operations)
    (started : .start ∈ operations) :
    ∃ stages before outcome answer, notices = stages ++ [.stopped answer] ∧
      operations = before ++ [.stop] ∧ result = resultOf outcome answer ∧
      Closing s registration stages before outcome := by
  cases h with
  | absent | unregistered | unresolved => simp at started
  | finished closing => exact ⟨_, _, _, _, rfl, rfl, rfl, closing⟩

/-! ## One shutdown -/

/-- A run that called the start has a receiver if its configuration allows one. -/
def Built (around : Resolver.Surroundings) (notices : List Notice) (r : ExtensionRun) : Prop :=
  .start ∈ r.operations → ∃ registration c rest,
    notices = .registered (.ok registration) :: .resolved (.ok c) :: rest ∧
    r.coordinator.service.isSome =
      (Receiver.ofConfiguration (Address.isHosted around.env) c).toOption.isSome

/-- Only at its beginning is a start still to be called. -/
theorem Agenda.unstarted {identifier : Option String} {c : Configuration}
    (h : Agenda s registration identifier (.toStart c) notices operations) :
    .start ∉ operations ∧
      notices = [.registered (.ok registration), .resolved (.ok c)] := by
  cases h with
  | toStart => simp

/-- A run calls the start where it is to start. -/
theorem Move.started (m : Move around r label q notice) (after : .start ∈ q.operations) :
    .start ∈ r.operations ∨
      ∃ c answer, r.stage = .toStart c ∧ r.starting around c = (q.coordinator, answer) := by
  cases m with
  | startWaits stage out | startAnswers stage out => exact .inr ⟨_, _, stage, out⟩
  | unanswered | unregistered | registers | unretrieved | unresolved | resolves | subscribes
  | polls | stopWaits | stopAnswers => exact .inl (by simpa [note] using after)
  | unreachable | hears | drops | joins | waits | startEnds | stopEnds | receiver | intake
  | consumes | cancels | leaves | unsignalled => exact .inl after

end

section

variable {around : Resolver.Surroundings} {r : ExtensionRun} {s : Settings}
  {past : List (Transition ExtensionRun Label)}

theorem built (h : Trace (step around) (ofSettings s) past r) :
    Built around (notices around past) r := by
  induction h with
  | start => intro started; simp [ofSettings] at started
  | @next past r q label before taken ih =>
    intro started
    have move := move_of_step taken
    have standing := (stands before).standing
    have known := agenda before
    rw [notices_append]
    -- The start was called before, or this step calls it.
    rcases move.started started with was | ⟨c, answer, stage, out⟩
    · have begun : ∀ c, r.stage ≠ .toStart c := by
        intro c stage
        rw [stage] at known
        exact known.unstarted.1 was
      obtain ⟨registration, c, rest, hnotices, hsome⟩ := ih was
      exact ⟨registration, c, rest ++ _, by rw [hnotices]; rfl,
        ((service_of_move move standing).isSome begun).trans hsome⟩
    · rw [stage] at standing known
      have untouched : r.coordinator.Untouched := standing
      exact ⟨_, c, _, by rw [known.unstarted.2]; rfl, by rw [(untouched.start out).2.1]⟩

/-- A run that called the start calls at most one stop and asks the receiver at
most once to shut down. Once it is over it has called one stop, and it has asked
the receiver to shut down if and only if that was built. Its result is the first
failure of a stage, which is the only one, and else what the stop answered. -/
theorem ended_run_stopped_once (h : Trace (step around) (ofSettings s) past r)
    (started : .start ∈ r.operations) :
    r.operations.count .stop ≤ 1 ∧ r.coordinator.shutdowns ≤ 1 ∧
    ∀ result, r.result? = some result →
      r.operations.count .stop = 1 ∧
      (∃ registration c rest,
        notices around past = .registered (.ok registration) :: .resolved (.ok c) :: rest ∧
        r.coordinator.shutdowns =
          match Receiver.ofConfiguration (Address.isHosted around.env) c with
          | .ok _ => 1
          | .error _ => 0) ∧
      ∃ stages answer, notices around past = stages ++ [.stopped answer] ∧
        (∀ n ∈ stages, (∀ a, n ≠ .stopped a) ∧
          ∀ e, n.failure? s.telemetry.required = some e → result = .error e) ∧
        result = match stages.findSome? (Notice.failure? s.telemetry.required) with
          | some e => .error e
          | none => answer.mapError .notStopped := by
  have known := agenda h
  have stand := stands h
  refine ⟨known.count_stop_le, ?_, ?_⟩
  · obtain ⟨cpast, history, -⟩ := stand.recorded
    rw [history.shutdowns.2]
    split
    · exact Nat.le_refl 1
    · exact Nat.zero_le 1
  · intro result hresult
    have stage := stage_of_result? hresult
    have standing := stand.standing
    rw [stage] at known standing
    obtain ⟨stages, before, outcome, answer, hnotices, hoperations, rfl, closing⟩ :=
      known.of_started started
    refine ⟨?_, ?_, stages, answer, hnotices, ?_, ?_⟩
    · rw [hoperations, List.count_append, closing.count_stop]
      rfl
    · obtain ⟨registration, c, rest, hbegin, hsome⟩ := built h started
      have givenUp : r.coordinator.GivenUp Receiver.kind := by
        refine standing.resolve_left ?_
        intro untouched
        exact stand.begun started untouched.unbegun
      refine ⟨registration, c, rest, hbegin, ?_⟩
      rw [stand.recorded.shutdowns_of_givenUp givenUp, hsome]
      cases Receiver.ofConfiguration (Address.isHosted around.env) c with
      | ok | error => rfl
    · intro n hn
      obtain ⟨failure, unstopped⟩ := closing.failure_eq n hn
      refine ⟨unstopped, ?_⟩
      intro e failed
      rw [failure e failed]
      rfl
    · have houtcome := closing.outcome_eq
      rw [houtcome]
      cases stages.findSome? (Notice.failure? s.telemetry.required) with
      | some e => rfl
      | none => rfl

end

/-- A run that cannot learn of signals, and whose receiver fails in the end. -/
theorem ended_run_stopped_once_unsignalled : ∃ past r,
    Trace (step besideBrief) (ofSettings briefSettings) past r ∧ .start ∈ r.operations ∧
    .stopped (.error (.run .notServing)) ∈ notices besideBrief past ∧
    r.result? = some (.error .noSignals) ∧
    r.operations.count .stop = 1 ∧ r.coordinator.shutdowns ≤ 1 := by
  obtain ⟨past, log, h, -⟩ := exists_briefPolled
  obtain ⟨later, r, hfollow, started, stopped, hresult⟩ : ∃ later r,
      follow (step besideBrief) [.unsignalled, .receiver .fail, .receiver .finish, .go, .look, .go,
        .intake .receive, .consumed, .go] (briefPolled log) = some (later, r) ∧
        .start ∈ r.operations ∧
        notices besideBrief later = [.noSignals, .stopped (.error (.run .notServing))] ∧
        r.result? = some (.error .noSignals) :=
    ⟨_, _, rfl, .tail _ (.tail _ (.head _)), rfl, rfl⟩
  have ended := h.follow hfollow
  have noticed : notices besideBrief (past ++ later) = _ := List.filterMap_append
  obtain ⟨-, once, outcome⟩ := ended_run_stopped_once ended started
  refine ⟨_, r, ended, started, ?_, hresult, (outcome _ hresult).1, once⟩
  rw [noticed]
  refine List.mem_append_right _ ?_
  rw [← notices, stopped]
  exact .tail _ (.head _)

end ExtensionRun

end TelemetrySidecar

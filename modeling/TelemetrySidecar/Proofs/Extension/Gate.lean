import Mathlib
import TelemetrySidecar.Proofs.Extension.Agenda
import TelemetrySidecar.Proofs.Resolution.Retrieval

/-
  The gates of a run

  Each stage of a run is open only to what the stages before it came to. What a run
  may ask for next is therefore settled by what it has learned and asked for so far
  (`Due`).

  What is proved: a run asks for nothing but what is due, and asks nobody anything
  in between (`Move.performs`, `Agenda.due`). After a failure only the stop is due
  (`Due.eq_stop`). A run whose receiver is ready subscribes once if telemetry is
  enabled, and a subscription that fails ends it exactly if it is required and
  there is something to subscribe to (`stages_gated`).
-/

namespace TelemetrySidecar.ExtensionRun

/-- What a run may ask for next, given the ports that the system gave it, what it
has learned and what it has asked for. -/
inductive Due (s : Settings) (env : Environment) (ports : List Nat) :
    List Notice → List Operation → Operation → Prop where
  | register : Due s env ports [] [] (.register s.extension.name)
  | retrieve {registration : Registration} :
      Due s env ports [.registered (.ok registration)] [.register s.extension.name]
        (.retrieve s.collector.configUris)
  | start {registration : Registration} {c : Configuration} :
      Due s env ports [.registered (.ok registration), .resolved (.ok c)]
        [.register s.extension.name, .retrieve s.collector.configUris] .start
  | subscribe {registration : Registration} {c : Configuration} {port : Nat}
      (on : s.telemetry.enabled = true) (bound : ports = [port]) :
      Due s env ports [.registered (.ok registration), .resolved (.ok c), .started (.ok ())]
        (opening s) (.subscribe registration.extensionId (Address.listener env port))
  | poll {registration : Registration} {notices : List Notice} {operations : List Operation}
      (polling : Polling s registration notices operations) :
      Due s env ports notices operations (.poll (some registration.extensionId))
  | stop {registration : Registration} {notices : List Notice} {operations : List Operation}
      {outcome : RunResult} (closing : Closing s registration notices operations outcome) :
      Due s env ports notices operations .stop

section

variable {around : Resolver.Surroundings} {r q : ExtensionRun} {label : Label}
  {notice : Option Notice} {s : Settings} {env : Environment} {ports : List Nat}
  {notices : List Notice} {operations : List Operation} {operation : Operation}

/-- After a failure only the stop is due. -/
theorem Due.eq_stop (h : Due s env ports notices operations operation) {n : Notice}
    (hn : n ∈ notices) {e : RunError} (failed : n.failure? s.telemetry.required = some e) :
    operation = .stop := by
  cases h with
  | stop => rfl
  | poll polling =>
    rw [(polling.unfailed n hn).1] at failed
    cases failed
  | register => cases hn
  | retrieve =>
    cases List.mem_singleton.mp hn
    cases failed
  | start =>
    simp only [List.mem_cons, List.not_mem_nil, or_false] at hn
    rcases hn with rfl | rfl
    · cases failed
    · cases failed
  | subscribe =>
    simp only [List.mem_cons, List.not_mem_nil, or_false] at hn
    rcases hn with rfl | rfl | rfl
    · cases failed
    · cases failed
    · cases failed

/-- A step asks for one thing at most. -/
theorem eq_of_performed {o : Operation} (performed : q.operations = r.operations ++ [operation])
    (asked : q.operations = r.operations ++ [o]) : operation = o :=
  (List.append_singleton_inj.mp (performed.symm.trans asked)).2

/-- A step asks for one thing or for nothing, and then nobody is asked. -/
theorem Move.performs (m : Move around r label q notice) :
    (q.operations = r.operations ∧ q.log = r.log) ∨
      ∃ operation, q.operations = r.operations ++ [operation] := by
  cases m with
  | unreachable | hears | drops | joins | waits | startEnds | stopEnds | receiver | intake
  | consumes | cancels | leaves | unsignalled => exact .inl ⟨rfl, rfl⟩
  | unanswered | unregistered | registers | unretrieved | unresolved | resolves | startWaits
  | startAnswers | subscribes | polls | stopWaits | stopAnswers => exact .inr ⟨_, rfl⟩

/-- What a run asks for is due. -/
theorem Agenda.due
    (h : Agenda s r.registration r.client.identifier r.stage notices r.operations)
    (m : Move around r label q notice) (settings : r.settings = s)
    (listener : r.stage = .toSubscribe → ∃ port, ports = [port] ∧
      r.listener? around = some (Address.listener around.env port))
    (performed : q.operations = r.operations ++ [operation]) :
    Due s around.env ports notices r.operations operation := by
  subst settings
  have idle : q.operations = r.operations → False := by
    intro same
    rw [same] at performed
    simp at performed
  have asked : ∀ {o}, q.operations = r.operations ++ [o] → operation = o :=
    eq_of_performed performed
  -- What was asked for before is a variable, for the agenda to be taken apart.
  obtain ⟨operations, hops⟩ : ∃ operations, operations = r.operations := ⟨_, rfl⟩
  rw [← hops] at h ⊢
  cases m with
  | unanswered stage | unregistered stage | registers stage =>
    rw [stage] at h
    rw [asked rfl]
    cases h
    exact .register
  | unretrieved stage | unresolved stage | resolves stage =>
    rw [stage] at h
    rw [asked rfl]
    cases h
    exact .retrieve
  | startWaits stage | startAnswers stage =>
    rw [stage] at h
    rw [asked rfl]
    cases h
    exact .start
  | subscribes stage hlistener =>
    obtain ⟨port, bound, hport⟩ := listener stage
    rw [hlistener] at hport
    rw [stage] at h
    rw [asked rfl, Option.some.inj hport]
    cases h with
    | toSubscribe _ on => exact .subscribe on bound
  | polls stage =>
    rw [stage] at h
    rw [asked rfl]
    cases h with
    | toPoll identified polling =>
      rw [identified]
      exact .poll polling
  | stopWaits stage | stopAnswers stage =>
    rw [stage] at h
    rw [asked rfl]
    cases h with
    | toStop closing => exact .stop closing
  | unreachable | hears | drops | joins | waits | startEnds | stopEnds | receiver | intake
  | consumes | cancels | leaves | unsignalled => exact absurd rfl idle

/-- A retrieval retrieves the sources in order. -/
theorem Move.retrieves (m : Move around r label q notice) {uris : List String}
    (performed : q.operations = r.operations ++ [.retrieve uris]) :
    ∃ outcome, notice = outcome.map .resolved ∧
      (Resolver.standard around uris).Retrieves uris r.log outcome q.log := by
  have asked : ∀ {o}, q.operations = r.operations ++ [o] → .retrieve uris = o :=
    eq_of_performed performed
  have retrieves : ∀ {outcome log}, r.resolving around = (outcome, log) →
      (Resolver.standard around r.settings.collector.configUris).Retrieves
        r.settings.collector.configUris r.log outcome log := by
    intro outcome log out
    have hout : (Resolver.standard around r.settings.collector.configUris).resolve.outcome r.log =
        (outcome, log) := out
    have was := Resolver.standard_retrieves around r.settings.collector.configUris r.log
    rw [hout] at was
    exact was
  cases m with
  | unretrieved _ out | unresolved _ out | resolves _ out =>
    cases asked rfl
    exact ⟨_, rfl, retrieves out⟩
  | unanswered | unregistered | registers | startWaits | startAnswers | subscribes | polls
  | stopWaits | stopAnswers => cases asked rfl
  | unreachable | hears | drops | joins | waits | startEnds | stopEnds | receiver | intake
  | consumes | cancels | leaves | unsignalled => simp at performed

/-! ## The subscription -/

/-- Whether an operation is a subscription. -/
def isSubscribe : Operation → Bool
  | .subscribe .. => true
  | _ => false

variable {registration : Registration} {outcome : RunResult}

theorem Polling.countP_isSubscribe (h : Polling s registration notices operations) :
    operations.countP isSubscribe = if s.telemetry.enabled then 1 else 0 := by
  induction h with
  | disabled off => simp [opening, isSubscribe, off]
  | subscribed on => simp [opening, isSubscribe, on]
  | invoked _ ih => simpa [List.countP_append, isSubscribe] using ih

/-- A run whose receiver was ready has subscribed once if that was enabled. -/
theorem Closing.countP_isSubscribe (h : Closing s registration notices operations outcome)
    (ready : .started (.ok ()) ∈ notices) :
    operations.countP isSubscribe = if s.telemetry.enabled then 1 else 0 := by
  cases h with
  | unstarted => simp at ready
  | unsubscribed on => simp [opening, isSubscribe, on]
  | shutDown before | unpolled before =>
    simpa [List.countP_append, isSubscribe] using before.countP_isSubscribe
  | left before waits | unsignalled before waits =>
    rcases waits with rfl | rfl
    · simpa using before.countP_isSubscribe
    · simpa [List.countP_append, isSubscribe] using before.countP_isSubscribe

theorem Polling.tolerated (h : Polling s registration notices operations) {e : SubscriptionError}
    (failed : .subscribed (.error e) ∈ notices) : Tolerated s.telemetry.required (.error e) := by
  induction h with
  | disabled => simp at failed
  | @subscribed _ _ outcome _ tolerated =>
    have houtcome : Except.error e = outcome := by simpa using failed
    rw [houtcome]
    exact tolerated
  | invoked _ ih => exact ih (by simpa using failed)

/-- A subscription that fails is what a run is to stop for if and only if it is
fatal. -/
theorem Closing.notSubscribed_iff (h : Closing s registration notices operations outcome)
    (e : SubscriptionError) : outcome = .error (.notSubscribed e) ↔
      .subscribed (.error e) ∈ notices ∧ ¬ Tolerated s.telemetry.required (.error e) := by
  have tolerated : ∀ {notices operations}, Polling s registration notices operations →
      ¬ (.subscribed (.error e) ∈ notices ∧ ¬ Tolerated s.telemetry.required (.error e)) := by
    rintro notices operations polling ⟨failed, fatal⟩
    exact fatal (polling.tolerated failed)
  cases h with
  | unstarted => simp
  | @unsubscribed _ _ f _ fatal =>
    constructor
    · intro hresult
      cases hresult
      exact ⟨by simp, fatal⟩
    · rintro ⟨failed, -⟩
      have he : e = f := by simpa using failed
      rw [he]
  | shutDown before | unpolled before | left before | unsignalled before =>
    simpa using tolerated before

/-! ## Over a run -/

variable {past : List (Transition ExtensionRun Label)}

/-- The agenda of a run that is over. -/
theorem Agenda.notSubscribed_iff {identifier : Option String} {result : RunResult}
    (h : Agenda s registration identifier (.finished result) notices operations)
    (e : SubscriptionError) : result = .error (.notSubscribed e) ↔
      .subscribed (.error e) ∈ notices ∧ ¬ Tolerated s.telemetry.required (.error e) := by
  cases h with
  | absent | unregistered | unresolved => simp
  | @finished before _ outcome answer closing =>
    have hstage := closing.notSubscribed_iff e
    have hmem : .subscribed (.error e) ∈ before ++ [.stopped answer] ↔
        .subscribed (.error e) ∈ before := by simp
    rw [hmem, ← hstage]
    rcases outcome with f | _
    · exact Iff.rfl
    · rcases answer with f | _
      · simp [resultOf, Except.mapError]
      · simp [resultOf, Except.mapError]

theorem Agenda.countP_isSubscribe {identifier : Option String} {result : RunResult}
    (h : Agenda s registration identifier (.finished result) notices operations)
    (ready : .started (.ok ()) ∈ notices) :
    operations.countP isSubscribe = if s.telemetry.enabled then 1 else 0 := by
  cases h with
  | absent | unregistered | unresolved => simp at ready
  | finished closing =>
    have hstage := closing.countP_isSubscribe (by simpa using ready)
    simpa [List.countP_append, isSubscribe] using hstage

/-- A run that is over asks for nothing more and stays over. -/
theorem Move.of_finished (m : Move around r label q notice) {result : RunResult}
    (stage : r.stage = .finished result) :
    q.stage = r.stage ∧ q.operations = r.operations ∧ q.log = r.log := by
  cases m with
  | waits | receiver | intake | consumes | cancels => exact ⟨rfl, rfl, rfl⟩
  | leaves polling | unsignalled polling => simp [isPolling, stage] at polling
  | startEnds _ hstage | stopEnds _ hstage => cases hstage.symm.trans stage
  | unanswered hstage | unregistered hstage | registers hstage | unretrieved hstage
  | unresolved hstage | resolves hstage | startWaits hstage | startAnswers hstage
  | unreachable hstage | subscribes hstage | polls hstage | hears hstage | stopWaits hstage
  | stopAnswers hstage | drops hstage | joins hstage => cases hstage.symm.trans stage

theorem unmoved_of_nowhere (h : Trace (step around) (ofSettings s) past r)
    (nowhere : s.runtimeUrl = none) :
    r.stage = .finished (.error .noRuntimeApi) ∧ r.operations = [] ∧ r.log = [] := by
  induction h with
  | start => simp [ofSettings, nowhere]
  | next _ taken ih =>
    obtain ⟨stage, operations, log⟩ := ih
    obtain ⟨stays, unasked, quiet⟩ := (move_of_step taken).of_finished stage
    exact ⟨stays.trans stage, unasked.trans operations, quiet.trans log⟩

end

/-- Without an address a run asks nobody for anything. Otherwise each of its steps
asks for one thing that is due, or asks nobody; a retrieval retrieves the sources
in order; and after a failure only the stop is left. When the run is over, it has
subscribed once if its receiver was ready and telemetry is enabled, and a failure
to subscribe is its result exactly if the subscription is required and there was
something to subscribe to. -/
theorem stages_gated {around : Resolver.Surroundings} {s : Settings} {r : ExtensionRun}
    {past : List (Transition ExtensionRun Label)}
    (h : Trace (step around) (ofSettings s) past r) :
    (s.runtimeUrl = none →
      r.operations = [] ∧ r.log = [] ∧ r.result? = some (.error .noRuntimeApi)) ∧
    (∀ earlier m later, past = earlier ++ m :: later →
      (m.after.operations = m.before.operations ∧ m.after.log = m.before.log) ∨
      ∃ operation, m.after.operations = m.before.operations ++ [operation] ∧
        Due s around.env (bindings earlier) (notices around earlier) m.before.operations
          operation ∧
        ((∃ n ∈ notices around earlier, ∃ e, n.failure? s.telemetry.required = some e) →
          operation = .stop) ∧
        ∀ uris, operation = .retrieve uris → ∃ outcome,
          m.before.notice? around m.label = outcome.map .resolved ∧
            (Resolver.standard around uris).Retrieves uris m.before.log outcome m.after.log) ∧
    ∀ result, r.result? = some result →
      (.started (.ok ()) ∈ notices around past →
        r.operations.countP isSubscribe = if s.telemetry.enabled then 1 else 0) ∧
      ∀ e, result = .error (.notSubscribed e) ↔
        .subscribed (.error e) ∈ notices around past ∧
          s.telemetry.required = true ∧ ∀ endpoint, e ≠ .notSupported endpoint := by
  refine ⟨?_, ?_, ?_⟩
  · intro nowhere
    obtain ⟨stage, operations, log⟩ := unmoved_of_nowhere h nowhere
    exact ⟨operations, log, by rw [result?, stage]⟩
  · rintro earlier m later rfl
    obtain ⟨before, taken⟩ := h.cut
    have move := move_of_step taken
    rcases move.performs with unchanged | ⟨operation, performed⟩
    · exact .inl unchanged
    · have due := (agenda before).due move (settings_eq before)
        (listener_of_toSubscribe before) performed
      refine .inr ⟨operation, performed, due, ?_, ?_⟩
      · rintro ⟨n, hn, e, failed⟩
        exact due.eq_stop hn failed
      · rintro uris rfl
        exact move.retrieves performed
  · intro result hresult
    have finished := agenda h
    rw [stage_of_result? hresult] at finished
    refine ⟨finished.countP_isSubscribe, ?_⟩
    intro e
    rw [finished.notSubscribed_iff e, not_tolerated_iff]

/-- A required subscription where there is nothing to subscribe to. -/
theorem stages_gated_unsupported : ∃ past r,
    Trace (step besideBrief) (ofSettings briefSettings) past r ∧
    briefSettings.telemetry.required = true ∧ r.result? = some (.ok ()) ∧
    r.operations = [.register "otel-lambda-collector", .retrieve ["yaml:"], .start,
      .subscribe "one" "http://127.0.0.1:4317", .poll (some "one"), .stop] ∧
    ∀ e, .subscribed (.error e) ∈ notices besideBrief past →
      ∃ endpoint, e = .notSupported endpoint := by
  obtain ⟨past, log, h, -⟩ := exists_briefPolled
  obtain ⟨later, r, hfollow, hresult, hoperations⟩ : ∃ later r,
      follow (step besideBrief) (waiting ++ draining) (briefPolled log) = some (later, r) ∧
        r.result? = some (.ok ()) ∧
        r.operations = [.register "otel-lambda-collector", .retrieve ["yaml:"], .start,
          .subscribe "one" "http://127.0.0.1:4317", .poll (some "one"), .stop] :=
    ⟨_, _, rfl, rfl, rfl⟩
  have ended := h.follow hfollow
  refine ⟨_, r, ended, rfl, hresult, hoperations, ?_⟩
  intro e failed
  by_contra supported
  have fatal := (((stages_gated ended).2.2 _ hresult).2 e).mpr
    ⟨failed, rfl, fun endpoint he => supported ⟨endpoint, he⟩⟩
  cases fatal

end TelemetrySidecar.ExtensionRun

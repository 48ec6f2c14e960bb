import TelemetrySidecar.Proofs.Extension.Agenda
import TelemetrySidecar.Proofs.Receiver.Recorded

/-
  Where a run can be reached

  A run learns from its coordinator that the receiver is ready, and then asks the
  receiver for the address to subscribe with. It is prepared for a receiver
  without one.

  What is proved: it never meets one. The coordinator calls a start ready only if it
  sees a receiver that runs (`Move.running_of_started`), such a receiver has
  recorded a port (`Holds.ready`), and the coordinator keeps it
  (`ready_of_started`). No run finds its receiver without an address
  (`noListener_not_mem`) or ends so (`result?_ne_noListener`).
-/

namespace TelemetrySidecar.ExtensionRun

section

variable {around : Resolver.Surroundings} {settings : Settings} {r q : ExtensionRun}
  {past : List (Transition ExtensionRun Label)}

/-- From a start that was ready on the receiver has recorded a port. -/
theorem ready_of_started (h : Trace (step around) (ofSettings settings) past r)
    (started : .started (.ok ()) ∈ notices around past) : Ready r := by
  induction h with
  | start => cases started
  | @next past r q label before taken ih =>
    have move := move_of_step taken
    have standing := (stands before).standing
    rw [notices_append] at started
    obtain was | learned := List.mem_append.mp started
    · exact (ih was).move (service_of_move move standing)
    · rw [Option.mem_toList] at learned
      rw [learned] at move
      exact (holds (before.next taken)).ready (move.running_of_started standing)

/-- A run that asks for events has a start that was ready. -/
theorem Polling.started_mem {registration : Registration} {notices : List Notice}
    {operations : List Operation} (h : Polling settings registration notices operations) :
    .started (.ok ()) ∈ notices := by
  induction h with
  | disabled | subscribed => simp
  | invoked _ ih => exact List.mem_append_left _ ih

/-- A run would find that only when it is to subscribe. -/
theorem Move.of_noListener {label : Label} (m : Move around r label q (some .noListener)) :
    r.stage = .toSubscribe ∧ r.listener? around = none := by
  cases m with
  | unreachable stage listener => exact ⟨stage, listener⟩

/-- No run finds its receiver without an address. -/
theorem noListener_not_mem (h : Trace (step around) (ofSettings settings) past r) :
    .noListener ∉ notices around past := by
  intro hn
  obtain ⟨m, hm, learned⟩ := List.mem_filterMap.mp hn
  obtain ⟨earlier, later, -, before, taken⟩ := h.split hm
  have move := move_of_step taken
  rw [learned] at move
  obtain ⟨stage, listener⟩ := move.of_noListener
  obtain ⟨port, -, known⟩ := listener_of_toSubscribe before stage
  cases listener.symm.trans known

theorem Closing.outcome_ne_noListener {registration : Registration} {notices : List Notice}
    {operations : List Operation} {outcome : RunResult}
    (h : Closing settings registration notices operations outcome) :
    outcome ≠ .error .noListener := by
  cases h with
  | unstarted | unsubscribed | shutDown | unpolled | left | unsignalled => simp

theorem resultOf_ne_noListener {outcome : RunResult} (known : outcome ≠ .error .noListener)
    (answer : Coordinator.Answer ReceiverError) :
    resultOf outcome answer ≠ .error .noListener := by
  rcases outcome with e | ⟨⟩
  · exact known
  · intro h
    cases answer with
    | error | ok => cases h

theorem result?_ne_noListener (h : Trace (step around) (ofSettings settings) past r) :
    r.result? ≠ some (.error .noListener) := by
  intro finished
  have told := agenda h
  rw [stage_of_result? finished] at told
  generalize hresult : (Except.error RunError.noListener : RunResult) = result at told
  generalize notices around past = learned, r.operations = operations at told
  cases told with
  | absent | unregistered | unresolved => cases hresult
  | finished closing =>
    exact resultOf_ne_noListener closing.outcome_ne_noListener _ hresult.symm

end

/-- A receiver that says it is running or closing has recorded the port of its listener, and that
stays, whatever its run and the requests to shut down do in turn. So a run of the extension knows
where its receiver listens once the start was ready, and it never ends for want of an
address. -/
theorem address_recorded :
    (∀ (settings : ReceiverSettings) (hosted : Bool)
        (past : List (Transition Receiver.Shared Receiver.Act)) (s : Receiver.Shared),
        Trace Receiver.Shared.step (.new settings hosted) past s →
      s.receiver.published = .running ∨ s.receiver.published = .closing →
      ∃ port, Receiver.bindings past = [port] ∧ s.receiver.port = some port ∧
        ∀ later t, Trace Receiver.Shared.step s later t →
          t.receiver.port = some port ∧ Receiver.bindings (past ++ later) = [port]) ∧
    ∀ (around : Resolver.Surroundings) (settings : Settings)
        (past : List (Transition ExtensionRun Label)) (r : ExtensionRun),
        Trace (step around) (ofSettings settings) past r →
      (.started (.ok ()) ∈ notices around past →
        ∃ port, bindings past = [port] ∧
          r.listener? around = some (Address.listener around.env port)) ∧
      .noListener ∉ notices around past ∧ r.result? ≠ some (.error .noListener) := by
  constructor
  · intro settings hosted past s h up
    exact Receiver.recorded_of_isUp h up
  · intro around settings past r h
    exact ⟨fun started => (ready_of_started h started).listener h, noListener_not_mem h,
      result?_ne_noListener h⟩

/-- A receiver that is asked to shut down while it serves, and a run whose host answers. -/
theorem address_recorded_serving :
    (∃ (past : List (Transition Receiver.Shared Receiver.Act)) (s : Receiver.Shared),
      Trace Receiver.Shared.step (.new {} false) past s ∧ s.receiver.published = .closing ∧
      s.receiver.port = some 8080 ∧ ∀ later t, Trace Receiver.Shared.step s later t →
        t.receiver.port = some 8080) ∧
    ∃ past r, Trace (step besideBrief) (ofSettings briefSettings) past r ∧
      .started (.ok ()) ∈ notices besideBrief past ∧ (r.listener? besideBrief).isSome ∧
      .noListener ∉ notices besideBrief past := by
  constructor
  · obtain ⟨past, s, hfollow, published, port⟩ : ∃ past s, follow Receiver.Shared.step
        [.ask, .run .check, .run (.bind (.ok 8080)), .run .record, .run .announce, .ask]
        (.new {} false) = some (past, s) ∧ s.receiver.published = .closing ∧
          s.receiver.port = some 8080 := ⟨_, _, rfl, rfl, rfl⟩
    have h := Trace.start.follow hfollow
    obtain ⟨p, -, recorded, stays⟩ := address_recorded.1 _ _ _ s h (.inr published)
    cases recorded.symm.trans port
    exact ⟨_, s, h, published, port, fun later t rest => (stays later t rest).1⟩
  · obtain ⟨past, log, h, -⟩ := exists_briefPolled
    have started : .started (.ok ()) ∈ notices besideBrief past := by
      obtain ⟨_, _, -, polling, -⟩ := (agenda h).of_isPolling rfl
      exact polling.started_mem
    obtain ⟨known, unmet, -⟩ := address_recorded.2 _ _ _ _ h
    obtain ⟨port, -, listener⟩ := known started
    exact ⟨past, _, h, started, by rw [listener]; rfl, unmet⟩

end TelemetrySidecar.ExtensionRun

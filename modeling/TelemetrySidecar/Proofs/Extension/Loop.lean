import TelemetrySidecar.Proofs.Extension.Agenda
import TelemetrySidecar.Proofs.Extension.Identity

/-
  The event loop of a run

  A run that is ready asks for one event after the other. What a poll comes to
  depends on the host and on all that it was asked before, so the answers to the
  polls of a loop are a sequence (`answerAt`), told from the log at its beginning.
  Beside the loop the receiver, the requests and the consumer go on.

  What is proved: an answer is an event exactly if the poll's last response has
  status 200 and a readable body that describes the event (`nextEvent_shows`). While
  nothing else ends it the loop is where its answers lead (`InLoop`),
  and no step leads elsewhere (`InLoop.step`). So it goes on as long as an
  invocation comes, and the first other answer ends it with its own result
  (`polls_while_invoked`).
-/

namespace TelemetrySidecar

namespace ExtensionClient

/-! ## What a response shows -/

/-- A response of status 200 whose body describes an event. -/
def Shows (response : Response) (event : LifecycleEvent) : Prop :=
  response.status = 200 ∧ ∃ body, response.text = .ok body ∧ LifecycleEvent.ofText body = .ok event

theorem eventOf_eq_ok_iff {endpoint : String} {response : Response} {event : LifecycleEvent} :
    eventOf endpoint response = .ok event ↔ Shows response event := by
  unfold eventOf Shows
  simp only [bind_eq_ok_iff, bodyOf_eq_ok_iff, mapError_eq_ok_iff]
  constructor
  · rintro ⟨body, ⟨success, text⟩, described⟩
    exact ⟨success, body, text, described⟩
  · rintro ⟨success, body, text, described⟩
    exact ⟨body, ⟨success, text⟩, described⟩

/-- A poll is answered with an event exactly if its last response shows it. -/
theorem nextEvent_shows (host : Host) (client : ExtensionClient) (log : Log) :
    ∃ answer more, (client.nextEvent host).run.run log = (answer, log ++ more) ∧
      ∀ event, answer = some (.ok event) ↔
        ∃ response, more.response? = some response ∧ Shows response event := by
  unfold nextEvent
  cases client.identifier with
  | none =>
    refine ⟨some (.error .notRegistered), [], ?_, ?_⟩
    · rw [List.append_nil]
      rfl
    · simp [Log.response?]
  | some identifier =>
    obtain ⟨outcome, more, sent, followed, -⟩ := Http.send_followed host false "GET"
      (client.endpoint "event/next") [(identifierField, Text.encode identifier)] [] log
    -- A last response that shows an event redirects nowhere, so it is the outcome.
    have shown : ∀ {response event}, more.response? = some response → Shows response event →
        outcome = some (.ok response) :=
      fun last shows => followed.final last (shows.1 ▸ success_not_mem_redirections)
    rcases outcome with _ | fault | response
    · refine ⟨none, more, Talk.run_bind_of_none sent, fun event => ⟨by simp, ?_⟩⟩
      rintro ⟨response, last, shows⟩
      cases shown last shows
    · refine ⟨_, more, Talk.run_bind_of_some sent, fun event => ⟨by simp, ?_⟩⟩
      rintro ⟨response, last, shows⟩
      cases shown last shows
    · refine ⟨_, more, Talk.run_bind_of_some sent, fun event => ?_⟩
      simp only [Option.some.injEq, eventOf_eq_ok_iff]
      constructor
      · exact fun shows => ⟨response, followed.last rfl, shows⟩
      · rintro ⟨last, hlast, shows⟩
        cases shown hlast shows
        exact shows

end ExtensionClient

namespace ExtensionRun

/-! ## The answers to a loop -/

/-- An answer that an invocation has come. -/
def Invokes (answer : Option (Except ExtensionError LifecycleEvent)) : Prop :=
  ∃ deadlineMs requestId arn, answer = some (.ok (.invoke deadlineMs requestId arn))

/-- What the loop comes to with an answer that ends it. -/
def loopResult : Except ExtensionError LifecycleEvent → RunResult
  | .ok _ => .ok ()
  | .error e => .error (.noEvent e)

section

variable (around : Resolver.Surroundings) (r : ExtensionRun)

/-- The log after so many polls, one after the other. -/
def logAt : Nat → Log
  | 0 => r.log
  | n + 1 => ((r.client.nextEvent around.host).run.run (logAt n)).2

/-- The answer to the poll that comes after so many others. -/
def answerAt (n : Nat) : Option (Except ExtensionError LifecycleEvent) :=
  ((r.client.nextEvent around.host).run.run (logAt around r n)).1

end

/-- The stages of a run from its stop on, with what the stages before came to. -/
inductive Ends (outcome : RunResult) : Stage → Prop where
  | toStop : Ends outcome (.toStop outcome)
  | stopping : Ends outcome (.stopping outcome)
  | toDrop {answer : Coordinator.Answer ReceiverError} :
      Ends outcome (.toDrop (resultOf outcome answer))
  | toJoin {answer : Coordinator.Answer ReceiverError} :
      Ends outcome (.toJoin (resultOf outcome answer))
  | finished {answer : Coordinator.Answer ReceiverError} :
      Ends outcome (.finished (resultOf outcome answer))

/-- A run has polled so often since it was in another state, and not been elsewhere. -/
structure Tally (around : Resolver.Surroundings) (r : ExtensionRun) (n : Nat) (q : ExtensionRun) :
    Prop where
  client : q.client = r.client
  log : q.log = logAt around r n
  polls : q.polls = r.polls + n

/-- Where a loop may be that began in another state. -/
inductive InLoop (around : Resolver.Surroundings) (r q : ExtensionRun) : Prop where
  /-- So many invocations have come. -/
  | asks {n : Nat} (invoked : ∀ i < n, Invokes (answerAt around r i)) (stage : q.stage = .toPoll)
      (tally : Tally around r n q)
  /-- So many have come, and it waits for the next answer. -/
  | waits {n : Nat} (invoked : ∀ i < n, Invokes (answerAt around r i))
      (stage : q.stage = .polled (answerAt around r n)) (tally : Tally around r (n + 1) q)
  /-- So many have come, and then an answer that ended it. -/
  | ended {n : Nat} {answer : Except ExtensionError LifecycleEvent}
      (invoked : ∀ i < n, Invokes (answerAt around r i))
      (answered : answerAt around r n = some answer) (other : ¬ Invokes (some answer))
      (ends : Ends (loopResult answer) q.stage) (polls : q.polls = r.polls + (n + 1))

section

variable {around : Resolver.Surroundings} {r q t : ExtensionRun} {label : Label}
  {notice : Option Notice} {n : Nat} {outcome : RunResult}
  {answer : Except ExtensionError LifecycleEvent}

/-- An answer that is no invocation ends the loop. -/
theorem ofPoll_of_not_invokes (other : ¬ Invokes (some answer)) :
    Stage.ofPoll answer = .toStop (loopResult answer) := by
  rcases answer with e | ⟨deadlineMs, requestId, arn⟩ | ⟨reason, deadlineMs⟩
  · rfl
  · exact absurd ⟨_, _, _, rfl⟩ other
  · rfl

/-- After an invocation the run asks again. -/
theorem ofPoll_of_invokes {a : Option (Except ExtensionError LifecycleEvent)} (h : Invokes a) :
    ∃ answer, a = some answer ∧ Stage.ofPoll answer = .toPoll := by
  obtain ⟨_, _, _, rfl⟩ := h
  exact ⟨_, rfl, rfl⟩

/-- The loop ends well exactly with a shutdown, whatever the reason. -/
theorem loopResult_eq_ok_iff (other : ¬ Invokes (some answer)) :
    loopResult answer = .ok () ↔
      ∃ reason deadlineMs, answer = .ok (.shutdown reason deadlineMs) := by
  rcases answer with e | ⟨deadlineMs, requestId, arn⟩ | ⟨reason, deadlineMs⟩
  · simp [loopResult]
  · exact absurd ⟨_, _, _, rfl⟩ other
  · simp [loopResult]

/-- It fails with the error of the poll that failed. -/
theorem loopResult_eq_error_iff {e : RunError} :
    loopResult answer = .error e ↔ ∃ fault, answer = .error fault ∧ e = .noEvent fault := by
  cases answer with
  | error fault =>
    constructor
    · intro h
      cases h
      exact ⟨fault, rfl, rfl⟩
    · rintro ⟨_, h, rfl⟩
      cases h
      rfl
  | ok event => simp [loopResult]

/-! ## What a step does to a loop -/

theorem polls_of_operations (h : q.operations = r.operations) : q.polls = r.polls := by
  unfold polls
  rw [h]

theorem polls_note_poll (identifier : Option String) :
    (r.note (.poll identifier)).polls = r.polls + 1 := by
  simp [polls, note]

theorem polls_note_stop : (r.note .stop).polls = r.polls := by
  simp [polls, note]

/-- Steps that are not the run's own leave the loop alone, unless they end it. -/
theorem Move.loop_rests (m : Move around r label q notice) (polling : r.isPolling = true)
    (others : label ≠ .go) (undisturbed : label ≠ .leave ∧ label ≠ .unsignalled) :
    q.stage = r.stage ∧ q.client = r.client ∧ q.log = r.log ∧ q.polls = r.polls := by
  cases m with
  | waits | receiver | intake | consumes | cancels => exact ⟨rfl, rfl, rfl, polls_of_operations rfl⟩
  | startEnds _ stage | stopEnds _ stage => simp [isPolling, stage] at polling
  | leaves => exact absurd rfl undisturbed.1
  | unsignalled => exact absurd rfl undisturbed.2
  | unanswered | unregistered | registers | unretrieved | unresolved | resolves | startWaits
  | startAnswers | unreachable | subscribes | polls | hears | stopWaits | stopAnswers | drops
  | joins => exact absurd rfl others

theorem Ends.isPolling (h : Ends outcome r.stage) : r.isPolling = false := by
  generalize hstage : r.stage = stage at h
  cases h with
  | toStop | stopping | toDrop | toJoin | finished => simp [ExtensionRun.isPolling, hstage]

/-- From the stop on a run goes to its end and polls no more. -/
theorem Ends.move (h : Ends outcome r.stage) (m : Move around r label q notice) :
    Ends outcome q.stage ∧ q.polls = r.polls := by
  cases m with
  | stopWaits stage =>
    rw [stage] at h
    cases h
    exact ⟨.stopping, polls_note_stop⟩
  | stopAnswers stage =>
    rw [stage] at h
    cases h
    exact ⟨.toDrop, polls_note_stop⟩
  | stopEnds _ stage =>
    rw [stage] at h
    cases h
    exact ⟨.toDrop, polls_of_operations rfl⟩
  | drops stage =>
    rw [stage] at h
    cases h
    exact ⟨.toJoin, polls_of_operations rfl⟩
  | joins stage =>
    rw [stage] at h
    cases h
    exact ⟨.finished, polls_of_operations rfl⟩
  | waits | receiver | intake | consumes | cancels => exact ⟨h, polls_of_operations rfl⟩
  | unanswered stage | unregistered stage | registers stage | unretrieved stage
  | unresolved stage | resolves stage | startWaits stage | startAnswers stage
  | unreachable stage | subscribes stage | polls stage | hears stage | startEnds _ stage =>
    rw [stage] at h
    cases h
  | leaves polling | unsignalled polling => cases polling.symm.trans h.isPolling

/-! ## Where a loop may be -/

theorem step_go_of_toPoll (stage : q.stage = .toPoll) :
    q.step around .go = some (q.poll around) := by
  simp [step, go, stage]

theorem step_go_of_polled (stage : q.stage = .polled (some answer)) :
    q.step around .go = some { q with stage := Stage.ofPoll answer } := by
  simp [step, go, stage, afterPoll_eq]

theorem step_go_of_unanswered (stage : q.stage = .polled none) : q.step around .go = none := by
  simp [step, go, stage]

theorem Tally.start : Tally around r 0 r := ⟨rfl, rfl, rfl⟩

/-- One more poll. -/
theorem Tally.poll (h : Tally around r n q) :
    Tally around r (n + 1) (q.poll around) ∧
      (q.poll around).stage = .polled (answerAt around r n) := by
  have asked : (q.client.nextEvent around.host).run.run q.log =
      (r.client.nextEvent around.host).run.run (logAt around r n) := by
    rw [h.client, h.log]
  refine ⟨⟨h.client, congrArg Prod.snd asked, ?_⟩, ?_⟩
  · have once : (q.poll around).polls = q.polls + 1 := polls_note_poll q.client.identifier
    rw [once, h.polls, Nat.add_assoc]
  · exact congrArg (fun p => Stage.polled p.1) asked

/-- What else happens beside the loop does not change its tally. -/
theorem Tally.rests (h : Tally around r n q)
    (same : t.client = q.client ∧ t.log = q.log ∧ t.polls = q.polls) : Tally around r n t :=
  ⟨same.1.trans h.client, same.2.1.trans h.log, same.2.2.trans h.polls⟩

theorem Tally.again (h : Tally around r n q) {stage : Stage} :
    Tally around r n { q with stage } :=
  ⟨h.client, h.log, h.polls⟩

/-- Every step keeps a loop where its answers lead, unless somebody ends it from outside. -/
theorem InLoop.step (loop : InLoop around r q) (taken : q.step around label = some t)
    (undisturbed : label ≠ .leave ∧ label ≠ .unsignalled) : InLoop around r t := by
  have move := move_of_step taken
  cases loop with
  | asks invoked stage tally =>
    by_cases own : label = .go
    · subst own
      cases (step_go_of_toPoll stage).symm.trans taken
      exact .waits invoked tally.poll.2 tally.poll.1
    · obtain ⟨same, rest⟩ := move.loop_rests (by simp [isPolling, stage]) own undisturbed
      exact .asks invoked (same.trans stage) (tally.rests rest)
  | @waits n invoked stage tally =>
    by_cases own : label = .go
    · subst own
      by_cases invokes : Invokes (answerAt around r n)
      · obtain ⟨answer, answered, asks⟩ := ofPoll_of_invokes invokes
        rw [answered] at stage
        cases (step_go_of_polled stage).symm.trans taken
        exact .asks (Nat.forall_lt_succ_right.mpr ⟨invoked, invokes⟩) asks tally.again
      · cases answered : answerAt around r n with
        | none =>
          rw [answered] at stage
          cases (step_go_of_unanswered stage).symm.trans taken
        | some answer =>
          rw [answered] at stage invokes
          cases (step_go_of_polled stage).symm.trans taken
          refine .ended invoked answered invokes ?_ tally.polls
          dsimp only
          rw [ofPoll_of_not_invokes invokes]
          exact .toStop
    · obtain ⟨same, rest⟩ := move.loop_rests (by simp [isPolling, stage]) own undisturbed
      exact .waits invoked (same.trans stage) (tally.rests rest)
  | ended invoked answered other ends polls =>
    obtain ⟨ends, same⟩ := ends.move move
    exact .ended invoked answered other ends (same.trans polls)

/-- Nobody ends a loop from outside. -/
def Undisturbed (past : List (Transition ExtensionRun Label)) : Prop :=
  ∀ m ∈ past, m.label ≠ .leave ∧ m.label ≠ .unsignalled

variable {past : List (Transition ExtensionRun Label)}

theorem inLoop_of_trace (stage : r.stage = .toPoll) (h : Trace (step around) r past q)
    (undisturbed : Undisturbed past) : InLoop around r q := by
  induction h with
  | start => exact .asks (by simp) stage .start
  | next _ taken ih =>
    rw [Undisturbed, List.forall_mem_append] at undisturbed
    exact (ih undisturbed.1).step taken (undisturbed.2 _ List.mem_cons_self)

/-! ## How far a loop goes -/

/-- The first answer that is no invocation comes after at least as many others as did. -/
theorem le_of_first {k : Nat} (first : ¬ Invokes (answerAt around r n))
    (earlier : ∀ i < k, Invokes (answerAt around r i)) : k ≤ n :=
  Nat.not_lt.mp fun more => first (earlier n more)

theorem eq_of_first {k : Nat} (invoked : ∀ i < n, Invokes (answerAt around r i))
    (first : ¬ Invokes (answerAt around r n)) (earlier : ∀ i < k, Invokes (answerAt around r i))
    (answered : answerAt around r k = some answer) (other : ¬ Invokes (some answer)) : k = n :=
  Nat.le_antisymm (le_of_first first earlier) (le_of_first (answered ▸ other) invoked)

/-- A loop polls until the first answer that is no invocation, and is over only with that. -/
theorem InLoop.bounded (loop : InLoop around r q)
    (invoked : ∀ i < n, Invokes (answerAt around r i)) (first : ¬ Invokes (answerAt around r n)) :
    q.polls ≤ r.polls + (n + 1) ∧
      (q.isPolling = false → q.polls = r.polls + (n + 1) ∧
        ∃ answer, answerAt around r n = some answer ∧ Ends (loopResult answer) q.stage) := by
  cases loop with
  | asks earlier stage tally =>
    have le := le_of_first first earlier
    exact ⟨by rw [tally.polls]; omega, by simp [isPolling, stage]⟩
  | waits earlier stage tally =>
    have le := le_of_first first earlier
    exact ⟨by rw [tally.polls]; omega, by simp [isPolling, stage]⟩
  | ended earlier answered other ends polls =>
    cases eq_of_first invoked first earlier answered other
    exact ⟨by omega, fun _ => ⟨polls, _, answered, ends⟩⟩

/-- By its own steps alone a run comes to such a state. -/
def Comes (around : Resolver.Surroundings) (q : ExtensionRun) (P : ExtensionRun → Prop) : Prop :=
  ∃ rest t, Trace (step around) q rest t ∧ (∀ m ∈ rest, m.label = .go) ∧ P t

namespace Comes

variable {P Q : ExtensionRun → Prop}

theorem now (h : P q) : Comes around q P := ⟨[], q, .start, by simp, h⟩

theorem trans (h : Comes around q P) (further : ∀ t, P t → Comes around t Q) :
    Comes around q Q := by
  obtain ⟨rest, t, trace, own, holds⟩ := h
  obtain ⟨more, u, trace', own', holds'⟩ := further t holds
  exact ⟨rest ++ more, u, trace.append trace', List.forall_mem_append.mpr ⟨own, own'⟩, holds'⟩

theorem go (taken : q.step around .go = some t) (h : Comes around t P) : Comes around q P := by
  have once : Comes around q (· = t) := ⟨_, t, Trace.start.next taken, by simp, rfl⟩
  exact once.trans fun u hu => hu ▸ h

end Comes

/-- As long as invocations come the run asks again. -/
theorem comes_toPoll (d : Nat) : ∀ {k : Nat} {q : ExtensionRun}, q.stage = .toPoll →
    Tally around r k q → (∀ i < k + d, Invokes (answerAt around r i)) →
    Comes around q fun t => t.stage = .toPoll ∧ Tally around r (k + d) t := by
  induction d with
  | zero => exact fun stage tally _ => .now ⟨stage, tally⟩
  | succ d ih =>
    intro k q stage tally invoked
    obtain ⟨answer, answered, asks⟩ := ofPoll_of_invokes (invoked k (by omega))
    have waits := tally.poll.2
    rw [answered] at waits
    refine .go (step_go_of_toPoll stage) (.go (step_go_of_polled waits) ?_)
    rw [← Nat.add_assoc, Nat.add_right_comm] at invoked ⊢
    exact ih asks tally.poll.1.again invoked

/-- The poll that comes after so many others was made, and its answer was taken if it came. -/
def HasPolled (around : Resolver.Surroundings) (r : ExtensionRun) (n : Nat) (q : ExtensionRun) :
    Prop :=
  q.polls = r.polls + (n + 1) ∧ ((answerAt around r n).isSome → q.isPolling = false)

/-- When the last answer is awaited and comes, the loop is over. -/
theorem comes_over (stage : q.stage = .polled (answerAt around r n))
    (tally : Tally around r (n + 1) q) (first : ¬ Invokes (answerAt around r n)) :
    Comes around q (HasPolled around r n) := by
  cases answered : answerAt around r n with
  | none => exact .now ⟨tally.polls, by simp [answered]⟩
  | some answer =>
    rw [answered] at stage first
    refine .go (step_go_of_polled stage) (.now ⟨tally.polls, fun _ => ?_⟩)
    simp [isPolling, ofPoll_of_not_invokes first]

/-- The run's own steps bring a loop to its last poll, and beyond if that is answered. -/
theorem InLoop.comes_over (loop : InLoop around r q)
    (invoked : ∀ i < n, Invokes (answerAt around r i)) (first : ¬ Invokes (answerAt around r n)) :
    Comes around q (HasPolled around r n) := by
  have asking : ∀ {k q}, q.stage = .toPoll → Tally around r k q → k ≤ n →
      Comes around q (HasPolled around r n) := by
    intro k q stage tally le
    obtain ⟨d, rfl⟩ := Nat.le.dest le
    refine (comes_toPoll d stage tally invoked).trans ?_
    rintro t ⟨stage, tally⟩
    exact .go (step_go_of_toPoll stage) (ExtensionRun.comes_over tally.poll.2 tally.poll.1 first)
  cases loop with
  | asks earlier stage tally => exact asking stage tally (le_of_first first earlier)
  | @waits k earlier stage tally =>
    obtain before | rfl := Nat.lt_or_eq_of_le (le_of_first first earlier)
    · -- The answer that is awaited is an invocation.
      obtain ⟨answer, answered, asks⟩ := ofPoll_of_invokes (invoked k before)
      rw [answered] at stage
      exact .go (step_go_of_polled stage) (asking asks tally.again before)
    · exact ExtensionRun.comes_over stage tally first
  | ended earlier answered other ends polls =>
    cases eq_of_first invoked first earlier answered other
    exact .now ⟨polls, fun _ => ends.isPolling⟩

/-- A loop polls ever again exactly if all answers are invocations. -/
theorem polls_unbounded_iff (stage : r.stage = .toPoll) :
    (∀ k, ∃ past q, Trace (step around) r past q ∧ Undisturbed past ∧ r.polls + k ≤ q.polls) ↔
      ∀ i, Invokes (answerAt around r i) := by
  constructor
  · intro unbounded i
    -- An answer that is none, after invocations alone, would have been the last.
    induction i using Nat.strongRecOn with
    | ind n invoked =>
      apply Classical.byContradiction
      intro first
      obtain ⟨past, q, h, undisturbed, many⟩ := unbounded (n + 2)
      have few := ((inLoop_of_trace stage h undisturbed).bounded invoked first).1
      omega
  · intro invoked k
    obtain ⟨rest, t, trace, own, -, tally⟩ :=
      comes_toPoll k stage Tally.start fun i _ => invoked i
    refine ⟨rest, t, trace, ?_, ?_⟩
    · intro m hm
      simp [own m hm]
    · rw [tally.polls]
      omega

/-! ## A loop that is left -/

/-- The answer that is awaited has not come, and the run may learn of signals. -/
def Unanswered (past : List (Transition ExtensionRun Label)) : Prop :=
  ∀ m ∈ past, (m.before.isPolling = true → m.label ≠ .go) ∧ m.label ≠ .unsignalled

theorem Move.cancelled (m : Move around r label q notice) (wanted : r.cancelled = true) :
    q.cancelled = true := by
  cases m with
  | cancels => rfl
  | _ => exact wanted

/-- A run that is to end while it waits for an answer goes on waiting or is left. -/
def Leaving (answer : Option (Except ExtensionError LifecycleEvent)) (q : ExtensionRun) : Prop :=
  (q.stage = .polled answer ∧ q.cancelled = true) ∨ Ends (.ok ()) q.stage

theorem Leaving.step {answer : Option (Except ExtensionError LifecycleEvent)}
    (leaving : Leaving answer q) (taken : q.step around label = some t)
    (unanswered : q.isPolling = true → label ≠ .go) (signalled : label ≠ .unsignalled) :
    Leaving answer t ∧ t.polls = q.polls := by
  have move := move_of_step taken
  obtain ⟨stage, cancelled⟩ | ends := leaving
  · have polling : q.isPolling = true := by simp [isPolling, stage]
    by_cases leaves : label = .leave
    · subst leaves
      obtain ⟨-, taken⟩ := Option.ite_none_right_eq_some.mp taken
      cases taken
      exact ⟨.inr .toStop, rfl⟩
    · obtain ⟨same, -, -, polls⟩ := move.loop_rests polling (unanswered polling) ⟨leaves, signalled⟩
      exact ⟨.inl ⟨same.trans stage, move.cancelled cancelled⟩, polls⟩
  · obtain ⟨ends, polls⟩ := ends.move move
    exact ⟨.inr ends, polls⟩

theorem leaving_of_trace {answer : Option (Except ExtensionError LifecycleEvent)}
    (stage : q.stage = .polled answer) (cancelled : q.cancelled = true)
    (h : Trace (ExtensionRun.step around) q past t) (unanswered : Unanswered past) :
    Leaving answer t ∧ t.polls = q.polls := by
  induction h with
  | start => exact ⟨.inl ⟨stage, cancelled⟩, rfl⟩
  | next _ taken ih =>
    rw [Unanswered, List.forall_mem_append] at unanswered
    obtain ⟨waits, signalled⟩ := unanswered.2 _ List.mem_cons_self
    obtain ⟨leaving, polls⟩ := ih unanswered.1
    obtain ⟨leaving, same⟩ := leaving.step taken waits signalled
    exact ⟨leaving, same.trans polls⟩

/-- It can be left at any time. -/
theorem Leaving.leave {answer : Option (Except ExtensionError LifecycleEvent)}
    (leaving : Leaving answer q) : Ends (.ok ()) q.stage ∨
      (q.stage = .polled answer ∧
        q.step around .leave = some { q with stage := .toStop (.ok ()) }) := by
  obtain ⟨stage, cancelled⟩ | ends := leaving
  · exact .inr ⟨stage, by simp [ExtensionRun.step, isPolling, stage, cancelled]⟩
  · exact .inl ends

theorem answerAt_shows (n : Nat) : ∃ more, logAt around r (n + 1) = logAt around r n ++ more ∧
    ∀ event, answerAt around r n = some (.ok event) ↔
      ∃ response, more.response? = some response ∧ ExtensionClient.Shows response event := by
  obtain ⟨answer, more, run, shows⟩ :=
    ExtensionClient.nextEvent_shows around.host r.client (logAt around r n)
  refine ⟨more, congrArg Prod.snd run, ?_⟩
  have answered : answerAt around r n = answer := congrArg Prod.fst run
  rw [answered]
  exact shows

/-- A run polls as long as invocations come. The first answer that is none ends the loop: it has
polled once for each answer, ends well exactly if a shutdown has come, for whatever reason, and
fails otherwise with the error of that poll. The run's own steps bring it there, if it is
answered. It polls ever again exactly if every answer is an invocation. An answer is an event
exactly if the last response to the poll shows it. A run that is to end while it waits for
an answer ends well and does not poll again. -/
theorem polls_while_invoked (stage : r.stage = .toPoll) :
    (∀ n, (∀ i < n, Invokes (answerAt around r i)) → ¬ Invokes (answerAt around r n) →
      ∀ past q, Trace (step around) r past q → Undisturbed past →
        q.polls ≤ r.polls + (n + 1) ∧
        (q.isPolling = false → q.polls = r.polls + (n + 1) ∧
          ∃ answer outcome, answerAt around r n = some answer ∧ Ends outcome q.stage ∧
            (outcome = .ok () ↔ ∃ reason deadlineMs, answer = .ok (.shutdown reason deadlineMs)) ∧
            ∀ e, outcome = .error e ↔ ∃ fault, answer = .error fault ∧ e = .noEvent fault) ∧
        Comes around q (HasPolled around r n)) ∧
    ((∀ k, ∃ past q, Trace (step around) r past q ∧ Undisturbed past ∧ r.polls + k ≤ q.polls) ↔
      ∀ n, Invokes (answerAt around r n)) ∧
    (∀ n, ∃ more, logAt around r (n + 1) = logAt around r n ++ more ∧
      ∀ event, answerAt around r n = some (.ok event) ↔
        ∃ response, more.response? = some response ∧ ExtensionClient.Shows response event) ∧
    ∀ past q answer, Trace (step around) r past q → q.stage = .polled answer → q.cancelled = true →
      ∀ rest t, Trace (step around) q rest t → Unanswered rest →
        t.polls = q.polls ∧
        (Ends (.ok ()) t.stage ∨ t.stage = .polled answer ∧
          t.step around .leave = some { t with stage := .toStop (.ok ()) }) := by
  refine ⟨?_, polls_unbounded_iff stage, answerAt_shows, ?_⟩
  · intro n invoked first past q h undisturbed
    have loop := inLoop_of_trace stage h undisturbed
    obtain ⟨most, result⟩ := loop.bounded invoked first
    refine ⟨most, ?_, loop.comes_over invoked first⟩
    intro left
    obtain ⟨polls, answer, answered, ends⟩ := result left
    exact ⟨polls, answer, loopResult answer, answered, ends,
      loopResult_eq_ok_iff (answered ▸ first), fun e => loopResult_eq_error_iff⟩
  · intro past q answer _ waits cancelled rest t further unanswered
    obtain ⟨leaving, polls⟩ := leaving_of_trace waits cancelled further unanswered
    exact ⟨polls, leaving.leave⟩

end

/-! ## A loop of two polls

A host answers the first request with an invocation and the others with a shutdown, for a
reason that is not known. -/

def invocation : Response where
  body := Text.encode "\x7b\"eventType\":\"INVOKE\"\x7d"

def shutdownForOther : Response where
  body := Text.encode
    "\x7b\"eventType\":\"SHUTDOWN\",\"shutdownReason\":\"other\",\"deadlineMs\":1\x7d"

def invokingOnce : Host := fun log _ =>
  .answered (if log.isEmpty then invocation else shutdownForOther)

def besideInvoking : Resolver.Surroundings := ⟨.empty, .empty, invokingOnce⟩

/-- A run that is ready to poll and was asked nothing yet. -/
def readyRun : ExtensionRun := briefRun .toPoll [] [] {} (unfilled [])

theorem invokingOnce_polls (log : Log) : ∃ exchange,
    (readyRun.client.nextEvent invokingOnce).run.run log =
      (some (ExtensionClient.eventOf (briefClient.endpoint "event/next")
        (if log.isEmpty then invocation else shutdownForOther)), log ++ [exchange]) := by
  have reads : Url.read? (briefClient.endpoint "event/next") =
      some ⟨false, "h", "/2020-01-01/extension/event/next"⟩ := by decide
  have fit : ([(identifierField, Text.encode "one")] : Headers).all
      (fun h => Http.isHeaderValue h.2) = true := by simp [isHeaderValue_one]
  have final : (if log.isEmpty then invocation else shutdownForOther).status ∉
      Http.redirections := by
    split
    · exact ExtensionClient.success_not_mem_redirections
    · exact ExtensionClient.success_not_mem_redirections
  exact ⟨_, ExtensionClient.nextEvent_of_answered rfl
    (Http.send_of_answered false reads fit rfl final)⟩

theorem invokingOnce_answers :
    answerAt besideInvoking readyRun 0 = some (.ok (.invoke 0 "" "")) ∧
      answerAt besideInvoking readyRun 1 = some (.ok (.shutdown .unknown 1)) := by
  have invokes : ExtensionClient.eventOf (briefClient.endpoint "event/next") invocation =
      .ok (.invoke 0 "" "") := eq_ok_of_toOption (by decide +kernel)
  have shutsDown : ExtensionClient.eventOf (briefClient.endpoint "event/next") shutdownForOther =
      .ok (.shutdown .unknown 1) := eq_ok_of_toOption (by decide +kernel)
  obtain ⟨exchange, first⟩ := invokingOnce_polls []
  obtain ⟨_, second⟩ := invokingOnce_polls [exchange]
  have log : logAt besideInvoking readyRun 1 = [exchange] := congrArg Prod.snd first
  constructor
  · exact (congrArg Prod.fst first).trans (congrArg some invokes)
  · unfold answerAt
    rw [log]
    exact (congrArg Prod.fst second).trans (congrArg some shutsDown)

/-- The loop polls twice and ends well, and one that is to end before the first answer comes can be
left. -/
theorem polls_while_invoked_once :
    (∃ past q, Trace (step besideInvoking) readyRun past q ∧ q.polls = 2 ∧ Ends (.ok ()) q.stage) ∧
    ∃ past q, Trace (step besideInvoking) readyRun past q ∧ q.polls = 1 ∧
      q.step besideInvoking .leave = some { q with stage := .toStop (.ok ()) } := by
  obtain ⟨loop, -, -, left⟩ := @polls_while_invoked besideInvoking readyRun rfl
  obtain ⟨invokes, shutsDown⟩ := invokingOnce_answers
  constructor
  · have invoked : ∀ i < 1, Invokes (answerAt besideInvoking readyRun i) := by
      intro i hi
      cases Nat.lt_one_iff.mp hi
      exact ⟨_, _, _, invokes⟩
    have other : ¬ Invokes (answerAt besideInvoking readyRun 1) := by
      rw [shutsDown]
      rintro ⟨_, _, _, h⟩
      cases h
    obtain ⟨-, -, past, q, h, own, polls, left⟩ :=
      loop 1 invoked other [] readyRun .start (by simp [Undisturbed])
    obtain ⟨-, ended, -⟩ := loop 1 invoked other past q h fun m hm => by simp [own m hm]
    obtain ⟨-, answer, outcome, answered, ends, good, -⟩ := ended (left (by simp [shutsDown]))
    cases answered.symm.trans shutsDown
    rw [good.mpr ⟨_, _, rfl⟩] at ends
    exact ⟨past, q, h, polls, ends⟩
  · let q := { readyRun.poll besideInvoking with cancelled := true }
    have h : Trace (step besideInvoking) readyRun _ q :=
      (Trace.start.next (step_go_of_toPoll rfl)).next
        (show step besideInvoking _ .cancel = some q from rfl)
    have waits : q.stage = .polled (answerAt besideInvoking readyRun 0) := rfl
    obtain ⟨polls, ends | ⟨-, leaves⟩⟩ := left _ q _ h waits rfl [] q .start (by simp [Unanswered])
    · cases ends
    · exact ⟨_, q, h, polls_note_poll _, leaves⟩

end ExtensionRun

end TelemetrySidecar

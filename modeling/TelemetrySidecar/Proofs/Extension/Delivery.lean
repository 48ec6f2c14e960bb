import TelemetrySidecar.Proofs.Extension.Agenda
import TelemetrySidecar.Proofs.Receiver.Acceptance

/-
  What becomes of the batches in a run

  Requests come while the receiver serves, in any order with the steps of their
  handlers, of the consumer and of the run. The run waits for its consumer at the
  end, and the consumer ends when nobody is left who could send.

  What is proved: what a run does to its intake is a trace of the intake that
  nobody closes (`intake_trace`). Who waits for the consumer has dropped the
  coordinator and has no receiver that goes on; the requests are answered too, for
  the receiver serves until they are (`Quiet`), so nobody is left who could send
  (`hasSender_of_givenUp`). Once the consumer has ended nothing comes any more
  (`Drained`). Therefore a run that is over has delivered the batches that were
  taken, in their order, and no others, and a run that waits for its consumer can
  come to its end (`delivers`).
-/

namespace TelemetrySidecar.ExtensionRun

open Coordinator (GivenUp)

/-! ## The intake of a run -/

/-- What happens to the intake in a step. -/
def Label.intake? : Label → Option Intake.Event
  | .intake event => some event
  | _ => none

/-- What happened to the intake of a run, in order. -/
def intakePast (past : List (Transition ExtensionRun Label)) :
    List (Transition Intake Intake.Event) :=
  past.filterMap fun m => m.label.intake?.map fun event =>
    ⟨m.before.intake, event, m.after.intake⟩

section

variable {around : Resolver.Surroundings} {r q : ExtensionRun} {label : Label}
  {notice : Option Notice} {s : Settings} {past : List (Transition ExtensionRun Label)}

/-- Only what happens to the intake changes it. -/
theorem Move.intake_eq (m : Move around r label q notice) (quiet : label.intake? = none) :
    q.intake = r.intake := by
  cases m with
  | intake => cases quiet
  | unanswered | unregistered | registers | unretrieved | unresolved | resolves | startWaits
  | startAnswers | unreachable | subscribes | polls | hears | stopWaits | stopAnswers | drops
  | joins | waits | startEnds | stopEnds | receiver | consumes | cancels | leaves | unsignalled =>
    rfl

theorem Move.intake_step {event : Intake.Event} (m : Move around r (.intake event) q notice) :
    r.admits event = true ∧ r.intake.step event = some q.intake ∧
      q.coordinator = r.coordinator ∧ q.stage = r.stage ∧ q.consumed = r.consumed := by
  cases m with
  | intake admits step => exact ⟨admits, step, rfl, rfl, rfl⟩
  | waits calls | startEnds calls | stopEnds calls => cases calls

theorem intakePast_of_quiet {m : Transition ExtensionRun Label} (quiet : m.label.intake? = none) :
    intakePast (past ++ [m]) = intakePast past := by
  have hsnoc : intakePast (past ++ [m]) = intakePast past ++ _ := filterMap_snoc ..
  rw [hsnoc, quiet]
  exact List.append_nil _

theorem intakePast_append (event : Intake.Event) :
    intakePast (past ++ [⟨r, .intake event, q⟩]) =
      intakePast past ++ [⟨r.intake, event, q.intake⟩] :=
  filterMap_snoc ..

/-- What a run does to its intake is a trace of the intake, and nobody closes the
channel. -/
theorem intake_trace (h : Trace (step around) (ofSettings s) past r) :
    Trace Intake.step { channel := { capacity := batchCapacity } } (intakePast past) r.intake ∧
      ∀ m ∈ intakePast past, m.label ≠ .close := by
  induction h with
  | start => exact ⟨.start, by simp [intakePast]⟩
  | @next past r q label before taken ih =>
    have move := move_of_step taken
    cases label with
    | intake event =>
      obtain ⟨admits, step, -⟩ := move.intake_step
      rw [intakePast_append, List.forall_mem_append, List.forall_mem_singleton]
      refine ⟨ih.1.next step, ih.2, ?_⟩
      rintro rfl
      cases admits
    | go | look | expire | receiver | consumed | cancel | leave | unsignalled =>
      rw [intakePast_of_quiet rfl, move.intake_eq rfl]
      exact ih

/-! ## Who could still send -/

/-- A receiver that does not serve has answered its requests. -/
def Quiet (r : ExtensionRun) : Prop := r.isServing = false → r.intake.isIdle = true

/-- Should serving ever fail, the requests were answered before. -/
def Graceful (past : List (Transition ExtensionRun Label)) : Prop :=
  ∀ m ∈ past, m.label = .receiver .fail → m.before.intake.isIdle = true

/-- Only a receiver that closes or fails ceases to serve. -/
theorem ServiceMove.ceases (m : ServiceMove around r label q) (serving : r.isServing = true)
    (ceased : q.isServing = false) :
    r.allows .close = true ∧ label = .receiver .close ∨ label = .receiver .fail := by
  unfold isServing at serving ceased
  cases m with
  | keeps _ service =>
    rw [service, serving] at ceased
    cases ceased
  | builds _ _ absent => simp [absent] at serving
  | @asks t _ service asked =>
    have hserving : t.isServing = true := by simpa [service] using serving
    have hceased : t.isServing = false := by
      rw [asked] at ceased
      exact ceased
    cases hserving.symm.trans hceased
  | @happens _ t _ hlabel allows service move after =>
    have hs : t.isServing = true := by simpa [service] using serving
    rcases move.leaves hs with rfl | rfl
    · exact .inl ⟨allows, hlabel⟩
    · exact .inr hlabel

/-- Where the receiver does not serve and all requests are answered, the consumer
may receive, and nothing else happens to the intake. -/
theorem Move.receives_of_isIdle {event : Intake.Event} (m : Move around r (.intake event) q notice)
    (stopped : r.isServing = false) (idle : r.intake.isIdle = true) :
    event = .receive ∧ r.consumed = false ∧ q.intake.isIdle = true ∧
      q.intake.accepted = r.intake.accepted := by
  obtain ⟨admits, step, -⟩ := m.intake_step
  have unrequested : ∀ body, event ≠ .request body := by
    rintro body rfl
    have serving : r.isServing = true := admits
    cases stopped.symm.trans serving
  obtain ⟨handlers, accepted, rfl | rfl⟩ := (Intake.move_of_step step).of_isIdle idle unrequested
  · have waiting : (!r.consumed) = true := admits
    refine ⟨rfl, by simpa using waiting, ?_, accepted⟩
    rw [Intake.isIdle, handlers]
    exact idle
  · cases admits

theorem Quiet.move (h : Quiet r) (m : Move around r label q notice)
    (service : ServiceMove around r label q)
    (graceful : label = .receiver .fail → r.intake.isIdle = true) : Quiet q := by
  intro ceased
  cases label with
  | intake event =>
    have same := m.intake_step.2.2.1
    have stopped : r.isServing = false := by rwa [isServing, same] at ceased
    exact (m.receives_of_isIdle stopped (h stopped)).2.2.1
  | go | look | expire | receiver | consumed | cancel | leave | unsignalled =>
    rw [m.intake_eq rfl]
    -- The receiver did not serve before either, or it ceases now.
    cases serving : r.isServing with
    | false => exact h serving
    | true =>
      rcases service.ceases serving ceased with ⟨idle, -⟩ | hlabel
      · exact idle
      · exact graceful hlabel

theorem quiet (h : Trace (step around) (ofSettings s) past r) (graceful : Graceful past) :
    Quiet r := by
  induction h with
  | start => intro _; rfl
  | next before taken ih =>
    unfold Graceful at graceful
    rw [List.forall_mem_append, List.forall_mem_singleton] at graceful
    have move := move_of_step taken
    exact (ih graceful.1).move move (service_of_move move (stands before).standing) graceful.2

theorem isServing_of_settled (settled : r.coordinator.Settled Receiver.kind) :
    r.isServing = false := by
  unfold isServing
  rcases settled with service | ⟨-, ended⟩
  · rw [service]; rfl
  · cases service : r.coordinator.service with
    | none => rfl
    | some t =>
      have hended : t.ended.isSome = true := by
        simpa [Coordinator.ended, service, Receiver.kind] using ended
      cases hphase : t.phase with
      | returned => simp [Receiver.isServing, hphase]
      | toCheck | toBind | toRecord | toAnnounce | serving | toReturn =>
        simp [Receiver.ended, hphase] at hended

/-- Who is given up and has answered all requests leaves nobody who could send. -/
theorem hasSender_of_givenUp (givenUp : r.coordinator.GivenUp Receiver.kind)
    (idle : r.intake.isIdle = true) : r.hasSender = false := by
  unfold hasSender
  rw [givenUp.dropped, idle]
  rcases givenUp.settled with service | ⟨-, ended⟩
  · simp [service]
  · simp [Option.isNone_eq_false_iff.mpr ended]

/-- Nothing happens any more to a coordinator that is given up. -/
theorem Move.coordinator_eq (m : Move around r label q notice) (stands : Stands r)
    (givenUp : r.coordinator.GivenUp Receiver.kind) : q.coordinator = r.coordinator := by
  have standing := stands.standing
  cases m with
  | startWaits stage | startAnswers stage =>
    rw [stage] at standing
    have untouched : r.coordinator.Untouched := standing
    exact absurd untouched.atRest givenUp.not_atRest
  | stopWaits stage | stopAnswers stage | drops stage =>
    rw [stage] at standing
    exact absurd standing.1 givenUp.not_atRest
  | waits calls taken =>
    rcases Coordinator.eq_or_start_of_unanswered (Coordinator.move_of_step taken)
      (looks_of_call? calls) with same | ⟨⟨seen, call⟩, -⟩
    · exact same
    · cases givenUp.call.symm.trans call
  | startEnds _ stage =>
    rw [stage] at standing
    obtain ⟨seen, call⟩ := standing
    cases givenUp.call.symm.trans call
  | stopEnds _ stage =>
    rw [stage] at standing
    cases givenUp.call.symm.trans standing
  | receiver _ taken =>
    cases Coordinator.move_of_step taken with
    | happens service goesOn => exact absurd (givenUp.settled.happens service goesOn) id
  | unanswered | unregistered | registers | unretrieved | unresolved | resolves | unreachable
  | subscribes | polls | hears | joins | intake | consumes | cancels | leaves | unsignalled => rfl

/-! ## The end of the consumer -/

/-- Nobody is left who could send, and everything that was sent was received. -/
structure Drained (r : ExtensionRun) : Prop where
  givenUp : r.coordinator.GivenUp Receiver.kind
  idle : r.intake.isIdle = true
  empty : r.intake.channel.queue = []

theorem Drained.of_consumes (stands : Stands r) (senderless : r.hasSender = false)
    (empty : r.intake.channel.queue = []) : Drained r := by
  unfold hasSender at senderless
  simp only [Bool.or_eq_false_iff, Bool.not_eq_false'] at senderless
  exact ⟨stands.givenUp senderless.1.1, senderless.2, empty⟩

theorem Drained.of_eq (h : Drained r) (same : q.coordinator = r.coordinator)
    (unmoved : q.intake = r.intake) : Drained q := by
  refine ⟨?_, ?_, ?_⟩
  · rw [same]
    exact h.givenUp
  · rw [unmoved]
    exact h.idle
  · rw [unmoved]
    exact h.empty

/-- The consumer only ends where nobody is left who could send. -/
theorem Move.consumed_eq_or (m : Move around r label q notice) :
    q.consumed = r.consumed ∨
      (q.consumed = true ∧ r.hasSender = false ∧ r.intake.channel.queue = [] ∧
        q.coordinator = r.coordinator ∧ q.intake = r.intake) := by
  cases m with
  | consumes senderless empty => exact .inr ⟨rfl, senderless, empty, rfl, rfl⟩
  | unanswered | unregistered | registers | unretrieved | unresolved | resolves | startWaits
  | startAnswers | unreachable | subscribes | polls | hears | stopWaits | stopAnswers | drops
  | joins | waits | startEnds | stopEnds | receiver | intake | cancels | leaves | unsignalled =>
    exact .inl rfl

/-- Once the consumer has ended, nothing more comes. -/
theorem drained (h : Trace (step around) (ofSettings s) past r) :
    r.consumed = true → Drained r := by
  induction h with
  | start => intro consumed; cases consumed
  | @next past r q label before taken ih =>
    intro consumed
    have move := move_of_step taken
    have stand := stands before
    -- The consumer had ended before, and nothing moves, or it ends in this step.
    rcases move.consumed_eq_or with unchanged | ⟨-, senderless, empty, same, unmoved⟩
    · have was : r.consumed = true := unchanged.symm.trans consumed
      have drained := ih was
      have unmoved : q.intake = r.intake := by
        cases label with
        | intake event =>
          have stopped := isServing_of_settled drained.givenUp.settled
          have unconsumed := (move.receives_of_isIdle stopped drained.idle).2.1
          cases unconsumed.symm.trans was
        | go | look | expire | receiver | consumed | cancel | leave | unsignalled =>
          exact move.intake_eq rfl
      exact drained.of_eq (move.coordinator_eq stand drained.givenUp) unmoved
    · exact (Drained.of_consumes stand senderless empty).of_eq same unmoved

/-- Before there is a receiver nothing happens to the intake. -/
theorem unused_of_unheld (h : Trace (step around) (ofSettings s) past r) :
    r.coordinator.service = none → r.intake = { channel := { capacity := batchCapacity } } := by
  induction h with
  | start => intro _; rfl
  | @next past r q label before taken ih =>
    intro unheld
    have move := move_of_step taken
    have was : r.coordinator.service = none := by
      cases service_of_move move (stands before).standing with
      | keeps _ service => exact service.symm.trans unheld
      | builds _ _ absent => exact absent
      | asks _ _ asked => cases asked.symm.trans unheld
      | happens _ _ _ _ after => cases after.symm.trans unheld
    have unused := ih was
    cases label with
    | intake event =>
      have stopped : r.isServing = false := by simp [isServing, was]
      have idle : r.intake.isIdle = true := by rw [unused]; rfl
      obtain ⟨rfl, -⟩ := move.receives_of_isIdle stopped idle
      have step := move.intake_step.2.1
      rw [unused] at step
      cases step
    | go | look | expire | receiver | consumed | cancel | leave | unsignalled =>
      exact (move.intake_eq rfl).trans unused

/-! ## The end of the run -/

/-- A run is over if it was, if it never came to its receiver, or if it has waited
for its consumer. -/
theorem Move.of_finished_after (m : Move around r label q notice) {result : RunResult}
    (stage : q.stage = .finished result) :
    r.stage = .finished result ∨ r.stage = .toRegister ∨ r.stage = .toResolve ∨
      (r.consumed = true ∧ q.consumed = true) := by
  cases m with
  | unregistered hstage => exact .inr (.inl hstage)
  | unresolved hstage => exact .inr (.inr (.inl hstage))
  | joins _ consumed => exact .inr (.inr (.inr ⟨consumed, consumed⟩))
  | waits | receiver | intake | consumes | cancels => exact .inl stage
  | @startAnswers _ _ answer | @startEnds _ _ _ answer =>
    rcases answer with e | _
    · cases stage
    · dsimp only [Stage.ofStart] at stage
      split at stage
      · cases stage
      · cases stage
  | subscribes =>
    dsimp only [Stage.ofSubscription] at stage
    split at stage
    · cases stage
    · cases stage
  | @hears answer =>
    rcases answer with e | ⟨_, _, _⟩ | ⟨_, _⟩
    · cases stage
    · cases stage
    · cases stage
  | unanswered | registers | unretrieved | resolves | startWaits | unreachable | polls
  | stopWaits | stopAnswers | drops | stopEnds | leaves | unsignalled => cases stage

/-- A run that is over has waited for its consumer, or it never had a receiver. -/
theorem consumed_or_unheld (h : Trace (step around) (ofSettings s) past r) {result : RunResult} :
    r.stage = .finished result → r.consumed = true ∨ r.coordinator.service = none := by
  induction h with
  | start => intro _; exact .inr rfl
  | @next past r q label before taken ih =>
    intro stage
    have move := move_of_step taken
    have standing := (stands before).standing
    have service := service_of_move move standing
    have stays : r.coordinator.service = none → (∀ c, r.stage ≠ .toStart c) →
        q.coordinator.service = none := by
      intro unheld begun
      simpa [unheld] using service.isSome begun
    rcases move.of_finished_after stage with was | was | was | ⟨-, consumed⟩
    · rcases ih was with consumed | unheld
      · rcases move.consumed_eq_or with unchanged | ⟨ended, -⟩
        · exact .inl (unchanged.trans consumed)
        · exact .inl ended
      · exact .inr (stays unheld (by simp [was]))
    · rw [was] at standing
      have untouched : r.coordinator.Untouched := standing
      exact .inr (stays untouched.unheld (by simp [was]))
    · rw [was] at standing
      have untouched : r.coordinator.Untouched := standing
      exact .inr (stays untouched.unheld (by simp [was]))
    · exact .inl consumed

/-- A run that waits for its consumer, with nobody left who could send, can come to
its end by what the consumer does. -/
theorem exists_finished_of_senderless {result : RunResult} (queue : List Batch) :
    ∀ {past : List (Transition ExtensionRun Label)} {r : ExtensionRun},
      Trace (step around) (ofSettings s) past r → r.intake.channel.queue = queue →
      r.stage = .toJoin result → r.hasSender = false →
      ∃ later q, Trace (step around) (ofSettings s) (past ++ later) q ∧
        (∀ m ∈ later, m.label = .intake .receive ∨ m.label = .consumed ∨ m.label = .go) ∧
        q.result? = some result := by
  -- The consumer receives what is held, one batch after the other, and then ends.
  induction queue with
  | nil =>
    intro past r h empty stage senderless
    cases consumed : r.consumed with
    | true =>
      have finished := h.next (Move.step (.joins stage consumed))
      exact ⟨_, _, finished, by simp, rfl⟩
    | false =>
      have ended := h.next (Move.step (.consumes senderless empty))
      have finished := ended.next (Move.step (.joins stage rfl))
      rw [List.append_assoc] at finished
      exact ⟨_, _, finished, by simp, rfl⟩
  | cons batch rest ih =>
    intro past r h held stage senderless
    have unconsumed : r.consumed = false := by
      cases consumed : r.consumed with
      | false => rfl
      | true =>
        have empty := (drained h consumed).empty
        rw [held] at empty
        cases empty
    have receives : r.intake.step .receive = some { r.intake with
        channel := { r.intake.channel with queue := rest },
        received := r.intake.received ++ [batch] } := by
      simp [Intake.step, Channel.take?, held]
    have admitted : r.admits .receive = true := by simp [admits, unconsumed]
    obtain ⟨later, q, finished, labels, hresult⟩ :=
      ih (h.next (Move.step (.intake admitted receives))) rfl stage senderless
    rw [List.append_assoc] at finished
    refine ⟨_, q, finished, ?_, hresult⟩
    rw [List.forall_mem_append]
    exact ⟨by simp, labels⟩

/-- When a run is over, the consumer has received the batches that the channel took,
in their order: those of the requests answered with 200, each once, each what the
body of its request describes; and every request is answered. A run that waits for
its consumer has nobody left who could send, unless serving failed before the
requests were answered, and what the consumer does leads to the end of the run. -/
theorem delivers (h : Trace (step around) (ofSettings s) past r) :
    (∀ result, r.result? = some result →
      r.intake.received = (Intake.acceptances (intakePast past)).map (·.batch) ∧
      (∀ i, i ∈ (Intake.acceptances (intakePast past)).map (·.index) ↔
        r.intake.handlers[i]? = some (.answered 200)) ∧
      ((Intake.acceptances (intakePast past)).map (·.index)).Nodup ∧
      (∀ a ∈ Intake.acceptances (intakePast past), ∃ body,
        (Intake.bodies (intakePast past))[a.index]? = some body ∧
          Batch.ofOctets body = .ok a.batch) ∧
      r.intake.handlers.length = (Intake.bodies (intakePast past)).length ∧
      r.intake.isIdle = true) ∧
    (Graceful past → ∀ result, r.stage = .toJoin result →
      r.hasSender = false ∧
      ∃ later q, Trace (step around) (ofSettings s) (past ++ later) q ∧
        (∀ m ∈ later, m.label = .intake .receive ∨ m.label = .consumed ∨ m.label = .go) ∧
        q.result? = some result) := by
  obtain ⟨trace, unclosed⟩ := intake_trace h
  have conserves := Intake.conserves trace
  constructor
  · intro result hresult
    have settled : r.intake.isIdle = true ∧ r.intake.channel.queue = [] := by
      rcases consumed_or_unheld h (stage_of_result? hresult) with consumed | unheld
      · exact ⟨(drained h consumed).idle, (drained h consumed).empty⟩
      · rw [unused_of_unheld h unheld]
        exact ⟨rfl, rfl⟩
    obtain ⟨idle, empty⟩ := settled
    refine ⟨?_, ?_, conserves.once, conserves.decoded, conserves.requests, idle⟩
    · have isOpen := Intake.isOpen_of_unclosed trace unclosed
      calc r.intake.received
        _ = r.intake.received ++ r.intake.channel.queue := by rw [empty, List.append_nil]
        _ = r.intake.accepted := (conserves.conserved isOpen).symm
        _ = _ := conserves.accepted
    · intro i
      have counted : r.intake.handlers[i]? ≠ some .toCount := by
        intro handler
        cases List.all_eq_true.mp idle _ (List.mem_of_getElem? handler)
      exact conserves.mem_indices_iff.trans (or_iff_right counted)
  · intro graceful result stage
    have givenUp : r.coordinator.GivenUp Receiver.kind := by
      have standing := (stands h).standing
      rw [stage] at standing
      exact standing
    have senderless := hasSender_of_givenUp givenUp
      (quiet h graceful (isServing_of_settled givenUp.settled))
    exact ⟨senderless, exists_finished_of_senderless _ h rfl stage senderless⟩

end

/-- A run that waits for its consumer, and ends when that has received a batch. -/
theorem delivers_lastEvent : ∃ past r later q,
    Trace (step besideBrief) (ofSettings briefSettings) past r ∧ Graceful past ∧
    r.stage = .toJoin (.ok ()) ∧ r.hasSender = false ∧
    Trace (step besideBrief) (ofSettings briefSettings) (past ++ later) q ∧
    q.result? = some (.ok ()) ∧
    (Intake.acceptances (intakePast (past ++ later))).map (·.batch) = [[]] := by
  obtain ⟨past, log, h, unfailed⟩ := exists_briefPolled
  obtain ⟨closing, r, hwaits, stage, q, drained, hdrains, hresult, received⟩ :
      ∃ closing r, follow (step besideBrief) waiting (briefPolled log) = some (closing, r) ∧
        r.stage = .toJoin (.ok ()) ∧ ∃ q drained,
          follow (step besideBrief) draining r = some (drained, q) ∧
          q.result? = some (.ok ()) ∧ q.intake.received = [[]] :=
    ⟨_, _, rfl, rfl, _, _, rfl, rfl, rfl⟩
  have graceful : Graceful (past ++ closing) := by
    intro m hm failed
    rcases List.mem_append.mp hm with hm | hm
    · exact absurd failed (unfailed m hm)
    · have taken := List.mem_map_of_mem (f := (·.label)) hm
      rw [failed, labels_of_follow hwaits] at taken
      simp [waiting] at taken
  have waits := h.follow hwaits
  have ends := waits.follow hdrains
  have senderless := ((delivers waits).2 graceful _ stage).1
  have delivered := ((delivers ends).1 _ hresult).1
  exact ⟨_, r, drained, q, waits, graceful, stage, senderless, ends, hresult,
    delivered.symm.trans received⟩

end TelemetrySidecar.ExtensionRun

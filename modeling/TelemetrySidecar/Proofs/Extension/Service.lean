import TelemetrySidecar.Proofs.Extension.Standing
import TelemetrySidecar.Proofs.Receiver.Port

/-
  The receiver in a run

  A run builds at most one receiver, when it starts its coordinator. From then on
  the receiver goes on by itself and may be asked to shut down.

  What is proved: what a step of a run does to the receiver is listed once
  (`ServiceMove`, `service_of_move`). So the receiver is anchored to the ports that
  the system gave in the run (`holds`), and when the run is to subscribe it has
  recorded one (`Ready`).
-/

namespace TelemetrySidecar

namespace Coordinator

variable {σ ι ε : Type} {kind : ServiceKind σ ι ε} {c d : Coordinator σ}
  {label : Label σ ι ε} {answer : Option (Answer ε)}

/-- What is neither a start nor a step of the service may only ask it to shut down. -/
theorem Move.service_or_asked (m : Move kind c label d answer)
    (unstarted : ∀ built, label ≠ .start built) (quiet : ∀ event, label ≠ .service event) :
    d.service = c.service ∨ ∃ s, c.service = some s ∧ d.service = some (kind.shutDown s) := by
  cases m with
  | startAgain | unbuilt | built => exact absurd rfl (unstarted _)
  | happens => exact absurd rfl (quiet _)
  | @stopWaits s _ service | @stopOver s _ service =>
    dsimp only [asked]
    split
    · exact .inl rfl
    · exact .inr ⟨s, service, rfl⟩
  | drops =>
    unfold drop
    split
    · rename_i s service
      split
      · exact .inl rfl
      · exact .inr ⟨s, service, rfl⟩
    · exact .inl rfl
  | exited | ready | waits | sees | timedOut | stopIdle | waitsEnd | stopEnds | givesUp =>
    exact .inl rfl

/-- A start that is ready looks at a service that runs. -/
theorem Move.running_of_ready (m : Move kind c label d answer) {seen : Option ServiceState}
    (call : c.call = .start seen) (hanswer : answer = some (.ok ())) :
    ∃ s, d.service = some s ∧ kind.published s = .running := by
  cases m with
  | ready _ _ service _ running => exact ⟨_, service, running⟩
  | stopIdle rest | stopOver rest => simp [rest.1] at call
  | stopEnds hcall => cases hcall.symm.trans call
  | startAgain | unbuilt | exited | timedOut => cases hanswer
  | built | waits | sees | stopWaits | waitsEnd | givesUp | drops | happens => cases hanswer

end Coordinator

namespace ExtensionRun

/-- All that a step of a run may do to the receiver. -/
inductive ServiceMove (around : Resolver.Surroundings) (r : ExtensionRun) (label : Label)
    (q : ExtensionRun) : Prop where
  | keeps (quiet : ∀ event, label ≠ .receiver event)
      (service : q.coordinator.service = r.coordinator.service)
  | builds {configuration : Configuration} (quiet : ∀ event, label ≠ .receiver event)
      (stage : r.stage = .toStart configuration) (absent : r.coordinator.service = none)
      (service : q.coordinator.service =
        (Receiver.ofConfiguration (Address.isHosted around.env) configuration).toOption)
  | asks {s : Receiver} (quiet : ∀ event, label ≠ .receiver event)
      (service : r.coordinator.service = some s) (asked : q.coordinator.service = some s.shutDown)
  | happens {event : Receiver.Event} {s s' : Receiver} (label : label = .receiver event)
      (allows : r.allows event = true) (service : r.coordinator.service = some s)
      (move : s.Move event s') (after : q.coordinator.service = some s')

section

variable {around : Resolver.Surroundings} {r q : ExtensionRun} {label : Label}
  {notice : Option Notice}

/-- A step that goes with a call of the coordinator. -/
theorem ServiceMove.ofCall {call : Coordinator.Label Receiver Receiver.Event ReceiverError}
    {answer : Option (Coordinator.Answer ReceiverError)} (quiet : ∀ event, label ≠ .receiver event)
    (move : Coordinator.Move Receiver.kind r.coordinator call q.coordinator answer)
    (unstarted : ∀ built, call ≠ .start built) (quietCall : ∀ event, call ≠ .service event) :
    ServiceMove around r label q := by
  rcases move.service_or_asked unstarted quietCall with hservice | ⟨s, service, asked⟩
  · exact .keeps quiet hservice
  · exact .asks quiet service asked

theorem quiet_of_call? {call : Coordinator.Label Receiver Receiver.Event ReceiverError}
    (calls : label.call? = some call) : ∀ event, label ≠ .receiver event := by
  rintro event rfl
  cases calls

theorem service_of_move (m : Move around r label q notice)
    (standing : Standing r.coordinator r.stage) : ServiceMove around r label q := by
  have looks : ∀ {call : Coordinator.Label Receiver Receiver.Event ReceiverError},
      label.call? = some call →
      (∀ built, call ≠ .start built) ∧ ∀ event, call ≠ .service event := by
    intro call calls
    rcases looks_of_call? calls with rfl | rfl
    · simp
    · simp
  cases m with
  | startWaits stage out | startAnswers stage out =>
    rw [stage] at standing
    have untouched : r.coordinator.Untouched := standing
    exact .builds (by simp) stage untouched.unheld (untouched.start out).2.1
  | stopWaits stage out | stopAnswers stage out =>
    rw [stage] at standing
    have idle : r.coordinator.Idle := standing
    exact .ofCall (by simp) (Coordinator.move_of_stop idle.1 out) (by simp) (by simp)
  | drops stage =>
    rw [stage] at standing
    exact .ofCall (by simp) (.drops standing.1) (by simp) (by simp)
  | waits calls taken | startEnds calls _ taken | stopEnds calls _ taken =>
    obtain ⟨unstarted, quietCall⟩ := looks calls
    exact .ofCall (quiet_of_call? calls) (Coordinator.move_of_step taken) unstarted quietCall
  | @receiver event coordinator allows taken =>
    obtain ⟨s, service, taken⟩ := Option.bind_eq_some_iff.mp taken
    obtain ⟨s', goesOn, taken⟩ := Option.bind_eq_some_iff.mp taken
    cases taken
    exact .happens rfl allows service (Receiver.move_of_step goesOn) rfl
  | unanswered | unregistered | registers | unretrieved | unresolved | resolves | unreachable
  | subscribes | polls | hears | joins | intake | consumes | cancels | leaves | unsignalled =>
    exact .keeps (by simp) rfl

/-- Only where a run is to start its receiver does one come. -/
theorem ServiceMove.isSome (m : ServiceMove around r label q)
    (begun : ∀ c, r.stage ≠ .toStart c) :
    q.coordinator.service.isSome = r.coordinator.service.isSome := by
  cases m with
  | keeps _ service => rw [service]
  | builds _ stage => exact absurd stage (begun _)
  | asks _ service asked => rw [service, asked]; rfl
  | happens _ _ service _ after => rw [service, after]; rfl

/-! ## The port -/

/-- The port that the system gives in a step. -/
def Label.bound? : Label → Option Nat
  | .receiver event => event.bound?
  | _ => none

/-- The ports that the system gave, in order. -/
def bindings (past : List (Transition ExtensionRun Label)) : List Nat :=
  past.filterMap fun m => m.label.bound?

/-- What is known of the receiver, if there is one, and of the ports. -/
structure Holds (ports : List Nat) (r : ExtensionRun) : Prop where
  anchored : ∀ s, r.coordinator.service = some s → s.Anchored ports
  unbound : r.coordinator.service = none → ports = []

theorem bound?_of_quiet (quiet : ∀ event, label ≠ .receiver event) : label.bound? = none := by
  cases label with
  | receiver event => exact absurd rfl (quiet event)
  | go | look | expire | intake | consumed | cancel | leave | unsignalled => rfl

theorem eq_ok_of_toOption {ε α : Type} {x : Except ε α} {a : α} (h : x.toOption = some a) :
    x = .ok a := by
  cases x with
  | error => cases h
  | ok => cases h; rfl

theorem Holds.move {ports : List Nat} (h : Holds ports r) (m : ServiceMove around r label q) :
    Holds (ports ++ label.bound?.toList) q := by
  cases m with
  | keeps quiet service =>
    rw [bound?_of_quiet quiet, Option.toList_none, List.append_nil]
    exact ⟨by rw [service]; exact h.anchored, by rw [service]; exact h.unbound⟩
  | builds quiet _ absent service =>
    rw [bound?_of_quiet quiet, Option.toList_none, List.append_nil]
    refine ⟨?_, fun _ => h.unbound absent⟩
    intro s hs
    rw [service] at hs
    rw [h.unbound absent]
    exact .new (eq_ok_of_toOption hs)
  | asks quiet service asked =>
    rw [bound?_of_quiet quiet, Option.toList_none, List.append_nil]
    refine ⟨?_, by simp [asked]⟩
    intro s hs
    rw [asked] at hs
    cases hs
    exact (h.anchored _ service).shutDown
  | @happens event s s' hlabel _ service move after =>
    subst hlabel
    refine ⟨?_, by simp [after]⟩
    intro t ht
    rw [after] at ht
    cases ht
    exact (h.anchored s service).move move

/-- The receiver has recorded a port. -/
def Ready (r : ExtensionRun) : Prop :=
  ∃ s port, r.coordinator.service = some s ∧ s.port = some port

theorem Ready.move (h : Ready r) (m : ServiceMove around r label q) : Ready q := by
  obtain ⟨s, port, service, recorded⟩ := h
  cases m with
  | keeps _ after => exact ⟨s, port, after.trans service, recorded⟩
  | builds _ _ absent => cases absent.symm.trans service
  | asks _ hs asked =>
    cases hs.symm.trans service
    exact ⟨_, port, asked, recorded⟩
  | happens _ _ hs move after =>
    cases hs.symm.trans service
    exact ⟨_, port, after, move.keeps_port recorded⟩

/-- A receiver that is running has recorded a port. -/
theorem Holds.ready {ports : List Nat} (h : Holds ports r)
    (running : ∃ s, r.coordinator.service = some s ∧ s.published = .running) : Ready r := by
  obtain ⟨s, service, running⟩ := running
  obtain ⟨port, recorded⟩ := (h.anchored s service).of_running running
  exact ⟨s, port, service, recorded⟩

/-- A start that was ready has seen a receiver that runs. -/
theorem Move.running_of_started (m : Move around r label q (some (.started (.ok ()))))
    (standing : Standing r.coordinator r.stage) :
    ∃ s, q.coordinator.service = some s ∧ s.published = .running := by
  cases m with
  | startAnswers stage out =>
    rw [stage] at standing
    have untouched : r.coordinator.Untouched := standing
    obtain ⟨hanswer, _⟩ | ⟨e, _, hanswer, _⟩ := (untouched.start out).2.2
    · cases hanswer
    · cases hanswer
  | startEnds _ stage taken =>
    rw [stage] at standing
    obtain ⟨seen, hcall⟩ := standing
    exact (Coordinator.move_of_step taken).running_of_ready hcall rfl

/-- A run is to subscribe if it was already or its start has just been ready. -/
theorem Move.of_toSubscribe (m : Move around r label q notice) (stage : q.stage = .toSubscribe) :
    r.stage = .toSubscribe ∨ notice = some (.started (.ok ())) := by
  cases m with
  | @startAnswers _ _ answer =>
    cases answer with
    | error => cases stage
    | ok => exact .inr rfl
  | @startEnds _ _ _ answer =>
    cases answer with
    | error => cases stage
    | ok => exact .inr rfl
  | subscribes =>
    unfold Stage.ofSubscription at stage
    dsimp only at stage
    split at stage
    · cases stage
    · cases stage
  | @hears answer =>
    rcases answer with e | ⟨_, _, _⟩ | ⟨_, _⟩
    · cases stage
    · cases stage
    · cases stage
  | waits | receiver | intake | consumes | cancels => exact .inl stage
  | unanswered | unregistered | registers | unretrieved | unresolved | resolves | startWaits
  | unreachable | polls | stopWaits | stopAnswers | drops | joins | stopEnds | leaves
  | unsignalled => cases stage

/-! ## Over a run -/

variable {settings : Settings} {past : List (Transition ExtensionRun Label)}

theorem bindings_append (m : Transition ExtensionRun Label) :
    bindings (past ++ [m]) = bindings past ++ m.label.bound?.toList :=
  filterMap_snoc ..

theorem holds (h : Trace (step around) (ofSettings settings) past r) :
    Holds (bindings past) r := by
  induction h with
  | start => exact ⟨by simp [ofSettings], fun _ => rfl⟩
  | next before taken ih =>
    rw [bindings_append]
    exact ih.move (service_of_move (move_of_step taken) (stands before).standing)

theorem ready (h : Trace (step around) (ofSettings settings) past r) :
    r.stage = .toSubscribe → Ready r := by
  induction h with
  | start =>
    intro stage
    unfold ofSettings at stage
    dsimp only at stage
    split at stage
    · cases stage
    · cases stage
  | @next past r q label before taken ih =>
    intro stage
    have move := move_of_step taken
    have standing := (stands before).standing
    -- The run was there already, or its start has seen that the receiver is running.
    obtain was | learned := move.of_toSubscribe stage
    · exact (ih was).move (service_of_move move standing)
    · rw [learned] at move
      exact (holds (before.next taken)).ready (move.running_of_started standing)

/-- The address of a receiver that has recorded a port is that of the port the system gave. -/
theorem Ready.listener (ready : Ready r) (h : Trace (step around) (ofSettings settings) past r) :
    ∃ port, bindings past = [port] ∧
      r.listener? around = some (Address.listener around.env port) := by
  obtain ⟨s, port, service, recorded⟩ := ready
  refine ⟨port, ((holds h).anchored s service).taken_eq recorded, ?_⟩
  simp [listener?, service, Receiver.uri?, recorded]

/-- A run that is to subscribe knows where. -/
theorem listener_of_toSubscribe (h : Trace (step around) (ofSettings settings) past r)
    (stage : r.stage = .toSubscribe) :
    ∃ port, bindings past = [port] ∧
      r.listener? around = some (Address.listener around.env port) :=
  (ready h stage).listener h

end

end ExtensionRun

end TelemetrySidecar

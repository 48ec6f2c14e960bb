import TelemetrySidecar.Service.Coordinator

/-
  What a coordinator can do

  `Coordinator.step` computes the next state from what happens. Here its results
  are listed once, each with the condition under which it comes about
  (`Coordinator.Move`), so that what holds along a history is proved move by
  move.

  What is proved: every result of a step is in the list (`move_of_step`).
-/

namespace TelemetrySidecar.Coordinator

variable {σ ι ε : Type} {kind : ServiceKind σ ι ε} {c d : Coordinator σ}
  {label : Label σ ι ε} {answer : Option (Answer ε)}

/-- No call is in progress, and the coordinator is still there. -/
def AtRest (c : Coordinator σ) : Prop := c.call = .none ∧ c.dropped = false

/-- After a stop that found a service: the first one has asked it to shut down. -/
def asked (kind : ServiceKind σ ι ε) (c : Coordinator σ) (s : σ) : Coordinator σ :=
  if c.latched then c
  else
    let state := if c.state = .running then .stopping else c.state
    { c.askShutDown kind s with state, latched := true }

/-- The state in which a stop leaves a coordinator once the run has ended. -/
def stateAfter (c : Coordinator σ) : RunEnd ε → LifecycleState
  | .returned => if c.state = .stopping then .stopped else c.state
  | _ => .failed

/-- A start may be told to look, or look one last time as its time runs out. -/
def Label.Looks (label : Label σ ι ε) : Prop := label = .look ∨ label = .expire

/-- All that may follow on a state, with the label and the answer. -/
inductive Move (kind : ServiceKind σ ι ε) (c : Coordinator σ) :
    Label σ ι ε → Coordinator σ → Option (Answer ε) → Prop where
  | startAgain {built : Except ε σ} (rest : c.AtRest) (begun : c.state ≠ .notStarted) :
      Move kind c (.start built) c (some (.error .alreadyStarted))
  | unbuilt {error : ε} (rest : c.AtRest) (fresh : c.state = .notStarted) :
      Move kind c (.start (.error error))
        { c with state := .failed, completion := .done, builds := c.builds + 1 }
        (some (.error (.build error)))
  | built {s : σ} (rest : c.AtRest) (fresh : c.state = .notStarted) :
      Move kind c (.start (.ok s))
        { c with state := .starting, service := some s, call := .start none,
                 builds := c.builds + 1 } none
  | exited {label : Label σ ι ε} {seen : Option ServiceState} {s : σ} {how : RunEnd ε}
      (looks : label.Looks) (call : c.call = .start seen) (service : c.service = some s)
      (ended : kind.ended s = some how) :
      Move kind c label
        { c with state := .failed, completion := .done, collected := true, call := .none }
        (some (.error (startError seen how)))
  | ready {label : Label σ ι ε} {s : σ} (looks : label.Looks) (call : c.call = .start none)
      (service : c.service = some s) (goesOn : kind.ended s = none)
      (running : kind.published s = .running) :
      Move kind c label { c with state := .running, completion := .pending, call := .none }
        (some (.ok ()))
  | waits {seen : Option ServiceState} {s : σ} (call : c.call = .start seen)
      (service : c.service = some s) (goesOn : kind.ended s = none)
      (undecided : seen.isSome ∨ kind.published s = .starting) :
      Move kind c .look c none
  | sees {s : σ} (call : c.call = .start none) (service : c.service = some s)
      (goesOn : kind.ended s = none) (terminal : (kind.published s).isTerminal) :
      Move kind c .look { c with call := .start (some (kind.published s)) } none
  | timedOut {seen : Option ServiceState} {s : σ} (call : c.call = .start seen)
      (service : c.service = some s) (goesOn : kind.ended s = none)
      (unready : seen.isSome ∨ kind.published s ≠ .running) :
      Move kind c .expire { c with state := .failed, completion := .pending, call := .none }
        (some (.error (.startTimeout c.timeoutMs)))
  | stopIdle (rest : c.AtRest) (unheld : c.service = none) : Move kind c .stop c (some (.ok ()))
  | stopWaits {s : σ} (rest : c.AtRest) (service : c.service = some s)
      (pending : c.completion = .pending) :
      Move kind c .stop { c.asked kind s with call := .stop } none
  | stopOver {s : σ} (rest : c.AtRest) (service : c.service = some s)
      (settled : c.completion ≠ .pending) : Move kind c .stop (c.asked kind s) (some (.ok ()))
  | waitsEnd {s : σ} (call : c.call = .stop) (service : c.service = some s)
      (goesOn : kind.ended s = none) : Move kind c .look c none
  | stopEnds {s : σ} {how : RunEnd ε} (call : c.call = .stop) (service : c.service = some s)
      (ended : kind.ended s = some how) :
      Move kind c .look
        { c with state := c.stateAfter how, completion := .done, collected := true, call := .none }
        (some (stopAnswer how))
  | givesUp (calls : c.call ≠ .none) : Move kind c .giveUp { c with call := .none } none
  | drops (rest : c.AtRest) : Move kind c .drop (c.drop kind) none
  | happens {s s' : σ} {event : ι} (service : c.service = some s)
      (goesOn : kind.step s event = some s') :
      Move kind c (.service event) { c with service := some s' } none

/-! ## What a stop and a drop leave as it is -/

section

variable (kind : ServiceKind σ ι ε) (c : Coordinator σ) (s : σ)

@[simp] theorem asked_call : (c.asked kind s).call = c.call := by
  unfold asked
  split <;> rfl

@[simp] theorem asked_completion : (c.asked kind s).completion = c.completion := by
  unfold asked
  split <;> rfl

@[simp] theorem asked_dropped : (c.asked kind s).dropped = c.dropped := by
  unfold asked
  split <;> rfl

@[simp] theorem asked_collected : (c.asked kind s).collected = c.collected := by
  unfold asked
  split <;> rfl

@[simp] theorem asked_latched : (c.asked kind s).latched = true := by
  unfold asked
  split
  · assumption
  · rfl

/-- A drop is noted and changes at most the service and the count of shutdowns. -/
theorem drop_eq : ∃ service shutdowns,
    c.drop kind = { c with service, shutdowns, dropped := true } := by
  unfold drop
  split
  · split <;> exact ⟨_, _, rfl⟩
  · exact ⟨_, _, rfl⟩

@[simp] theorem drop_state : (c.drop kind).state = c.state := by
  obtain ⟨_, _, h⟩ := drop_eq kind c
  rw [h]

@[simp] theorem drop_call : (c.drop kind).call = c.call := by
  obtain ⟨_, _, h⟩ := drop_eq kind c
  rw [h]

@[simp] theorem drop_completion : (c.drop kind).completion = c.completion := by
  obtain ⟨_, _, h⟩ := drop_eq kind c
  rw [h]

@[simp] theorem drop_latched : (c.drop kind).latched = c.latched := by
  obtain ⟨_, _, h⟩ := drop_eq kind c
  rw [h]

@[simp] theorem drop_collected : (c.drop kind).collected = c.collected := by
  obtain ⟨_, _, h⟩ := drop_eq kind c
  rw [h]

@[simp] theorem drop_dropped : (c.drop kind).dropped = true := by
  obtain ⟨_, _, h⟩ := drop_eq kind c
  rw [h]

end

/-! ## Every step is a move -/

theorem move_of_start {built : Except ε σ} (rest : c.AtRest)
    (h : c.start built = (d, answer)) : Move kind c (.start built) d answer := by
  unfold start at h
  split at h
  · rename_i begun
    cases h; exact .startAgain rest begun
  · rename_i fresh
    rw [Decidable.not_not] at fresh
    cases built with
    | error e => cases h; exact .unbuilt rest fresh
    | ok s => cases h; exact .built rest fresh

theorem move_of_stop (rest : c.AtRest) (h : c.stop kind = (d, answer)) :
    Move kind c .stop d answer := by
  unfold stop at h
  split at h
  · rename_i unheld
    cases h; exact .stopIdle rest unheld
  · rename_i s service
    change (if (c.asked kind s).completion = .pending then
      ({ c.asked kind s with call := .stop }, none) else (c.asked kind s, some (.ok ()))) =
      (d, answer) at h
    rw [asked_completion] at h
    split at h
    · rename_i pending
      cases h; exact .stopWaits rest service pending
    · rename_i settled
      cases h; exact .stopOver rest service settled

/-- What a start sees in the service: its look ends it, or it goes on and may
run out of time. -/
theorem move_of_lookStarting {seen : Option ServiceState} {s : σ} (call : c.call = .start seen)
    (service : c.service = some s) (h : c.lookStarting kind seen s = (d, answer)) :
    (answer.isSome → ∀ label : Label σ ι ε, label.Looks → Move kind c label d answer) ∧
    (answer = none → Move kind c .look d none ∧
      Move kind c .expire { d with state := .failed, completion := .pending, call := .none }
        (some (.error (.startTimeout d.timeoutMs)))) := by
  unfold lookStarting at h
  split at h
  · rename_i how ended
    cases h
    exact ⟨fun _ _ looks => .exited looks call service ended, by simp⟩
  · rename_i goesOn
    split at h
    · cases h
      refine ⟨by simp, fun _ => ⟨.waits call service goesOn (.inl rfl), ?_⟩⟩
      exact .timedOut call service goesOn (.inl rfl)
    · rename_i starting
      cases h
      refine ⟨by simp, fun _ => ⟨.waits call service goesOn (.inr starting), ?_⟩⟩
      exact .timedOut call service goesOn (.inr (by simp [starting]))
    · rename_i running
      cases h
      exact ⟨fun _ _ looks => .ready looks call service goesOn running, by simp⟩
    · rename_i unstarted unready
      cases h
      -- What is neither starting nor running is terminal.
      have terminal : (kind.published s).isTerminal := by
        cases hp : kind.published s with
        | starting => exact absurd hp unstarted
        | running => exact absurd hp unready
        | closing | closed | failed => rfl
      refine ⟨by simp, fun _ => ⟨.sees call service goesOn terminal, ?_⟩⟩
      exact .timedOut call service goesOn (.inr unready)

theorem move_of_look (h : c.look kind = some (d, answer)) : Move kind c .look d answer := by
  unfold look at h
  split at h
  · rename_i seen s call service
    obtain ⟨answered, unanswered⟩ := move_of_lookStarting call service (Option.some.inj h)
    cases answer with
    | some a => exact answered rfl .look (.inl rfl)
    | none => exact (unanswered rfl).1
  · rename_i s call service
    have h := Option.some.inj h
    unfold lookStopping at h
    split at h
    · rename_i goesOn
      cases h; exact .waitsEnd call service goesOn
    · rename_i how ended
      cases h
      have closed := Move.stopEnds (c := c) call service ended
      cases how <;> exact closed
  · cases h

theorem move_of_expire (h : c.step kind .expire = some (d, answer)) :
    Move kind c .expire d answer := by
  unfold step at h
  dsimp only at h
  cases hcall : c.call with
  | none => simp [hcall] at h
  | stop => simp [hcall] at h
  | start seen =>
    cases hs : c.service with
    | none => simp [hcall, look, hs] at h
    | some s =>
      have hlook : c.look kind = some (c.lookStarting kind seen s) := by
        simp [look, hcall, hs]
      rcases hanswer : c.lookStarting kind seen s with ⟨d', answer'⟩
      obtain ⟨answered, unanswered⟩ := move_of_lookStarting hcall hs hanswer
      rw [hlook, hanswer] at h
      cases answer' with
      | some a =>
        simp only [hcall] at h
        cases h
        exact answered rfl .expire (.inr rfl)
      | none =>
        simp only [hcall] at h
        cases h
        exact (unanswered rfl).2

/-- Every result of a step is in the list. -/
theorem move_of_step (h : c.step kind label = some (d, answer)) :
    Move kind c label d answer := by
  have rest_of : (c.call = .none && !c.dropped) = true → c.AtRest := by
    intro rest
    simpa [AtRest] using rest
  cases label with
  | start built =>
    obtain ⟨rest, h⟩ := Option.ite_none_right_eq_some.mp h
    exact move_of_start (rest_of rest) (Option.some.inj h)
  | stop =>
    obtain ⟨rest, h⟩ := Option.ite_none_right_eq_some.mp h
    exact move_of_stop (rest_of rest) (Option.some.inj h)
  | look => exact move_of_look h
  | expire => exact move_of_expire h
  | giveUp =>
    obtain ⟨calls, h⟩ := Option.ite_none_left_eq_some.mp h
    cases h; exact .givesUp calls
  | drop =>
    obtain ⟨rest, h⟩ := Option.ite_none_right_eq_some.mp h
    cases h; exact .drops (rest_of rest)
  | service event =>
    obtain ⟨s, service, h⟩ := Option.bind_eq_some_iff.mp h
    obtain ⟨s', goesOn, h⟩ := Option.bind_eq_some_iff.mp h
    cases h; exact .happens service goesOn

end TelemetrySidecar.Coordinator

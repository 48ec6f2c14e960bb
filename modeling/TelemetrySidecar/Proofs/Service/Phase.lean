import TelemetrySidecar.Proofs.Service.Move

/-
  Where a coordinator stands

  A coordinator of which no start is given up is always in one of four phases:
  it holds no service, it is starting one, it holds one whose end it has yet to
  collect, or the run is over and collected (`Phase`). Which phase it is in
  fixes what is known of the end of the run, the call in progress, and whether a
  shutdown was asked for.

  What is proved: a new coordinator holds no service (`phase_new`), and every
  move but a start that is given up leads from a phase to a phase
  (`Phase.move`). No move from a phase undoes the end of a run (`Phase.ended`).
-/

namespace TelemetrySidecar.Coordinator

variable {σ ι ε : Type} {kind : ServiceKind σ ι ε} {c d : Coordinator σ}
  {label : Label σ ι ε} {answer : Option (Answer ε)}

/-- The phases of a coordinator whose starts are run to their end. -/
inductive Phase (kind : ServiceKind σ ι ε) (c : Coordinator σ) : Prop where
  /-- No start was called, or the factory failed. -/
  | unheld (service : c.service = none) (call : c.call = .none)
      (state : (c.state = .notStarted ∧ c.completion = .idle) ∨
        (c.state = .failed ∧ c.completion = .done))
      (latched : c.latched = false) (collected : c.collected = false)
  | starting {s : σ} {seen : Option ServiceState} (service : c.service = some s)
      (call : c.call = .start seen) (state : c.state = .starting)
      (completion : c.completion = .idle) (latched : c.latched = false)
      (dropped : c.dropped = false) (collected : c.collected = false)
  /-- The end of the run is left to a stop. -/
  | held {s : σ} (service : c.service = some s)
      (call : c.call = .none ∨ (c.call = .stop ∧ c.latched = true ∧ c.dropped = false))
      (state : c.state = .failed ∨ c.state = if c.latched then .stopping else .running)
      (completion : c.completion = .pending) (collected : c.collected = false)
  | finished {s : σ} {how : RunEnd ε} (service : c.service = some s) (call : c.call = .none)
      (ended : kind.ended s = some how)
      (state : c.state = .failed ∨ (c.state = .stopped ∧ c.latched = true))
      (completion : c.completion = .done) (collected : c.collected = true)

theorem phase_new (timeoutMs : Nat) : Phase kind { timeoutMs } :=
  .unheld rfl rfl (.inl ⟨rfl, rfl⟩) rfl rfl

/-! ## The phase from what is seen of it -/

namespace Phase

theorem of_start (h : Phase kind c) {seen : Option ServiceState} (call : c.call = .start seen) :
    c.state = .starting ∧ c.completion = .idle ∧ c.latched = false ∧ c.dropped = false ∧
      c.collected = false := by
  cases h with
  | unheld _ hcall => simp [hcall] at call
  | starting _ _ state completion latched dropped collected =>
    exact ⟨state, completion, latched, dropped, collected⟩
  | held _ hcall => rcases hcall with hcall | ⟨hcall, _⟩ <;> simp [hcall] at call
  | finished _ hcall => simp [hcall] at call

theorem of_stop (h : Phase kind c) (call : c.call = .stop) :
    (c.state = .failed ∨ c.state = .stopping) ∧ c.completion = .pending ∧ c.latched = true ∧
      c.dropped = false ∧ c.collected = false := by
  cases h with
  | unheld _ hcall => simp [hcall] at call
  | starting _ hcall => simp [hcall] at call
  | held _ hcall state completion collected =>
    obtain ⟨-, latched, dropped⟩ := hcall.resolve_left (by simp [call])
    rw [if_pos latched] at state
    exact ⟨state, completion, latched, dropped, collected⟩
  | finished _ hcall => simp [hcall] at call

theorem of_fresh (h : Phase kind c) (fresh : c.state = .notStarted) :
    c.service = none ∧ c.completion = .idle ∧ c.latched = false ∧ c.collected = false := by
  cases h with
  | unheld service _ state latched collected =>
    have completion := (state.resolve_right (by simp [fresh])).2
    exact ⟨service, completion, latched, collected⟩
  | starting _ _ state => simp [state] at fresh
  | held _ _ state =>
    rcases state with state | state
    · simp [state] at fresh
    · rw [state] at fresh
      split at fresh <;> cases fresh
  | finished _ _ _ state => rcases state with state | ⟨state, _⟩ <;> simp [state] at fresh

theorem of_pending (h : Phase kind c) (pending : c.completion = .pending) :
    (c.state = .failed ∨ c.state = if c.latched then .stopping else .running) ∧
      c.collected = false := by
  cases h with
  | unheld _ _ state => rcases state with ⟨_, hc⟩ | ⟨_, hc⟩ <;> simp [hc] at pending
  | starting _ _ _ hc => simp [hc] at pending
  | held _ _ state _ collected => exact ⟨state, collected⟩
  | finished _ _ _ _ hc => simp [hc] at pending

/-- At rest a service whose end is not pending has ended. -/
theorem of_settled (h : Phase kind c) (call : c.call = .none) {s : σ}
    (service : c.service = some s) (settled : c.completion ≠ .pending) :
    (kind.ended s).isSome ∧ c.completion = .done ∧ c.collected = true ∧
      (c.state = .failed ∨ (c.state = .stopped ∧ c.latched = true)) := by
  cases h with
  | unheld hs => simp [hs] at service
  | starting _ hcall => simp [hcall] at call
  | held _ _ _ pending => exact absurd pending settled
  | finished hs _ ended state completion collected =>
    rw [hs] at service
    cases service
    exact ⟨by simp [ended], completion, collected, state⟩

end Phase

/-! ## A stop and a drop -/

/-- The service a stop leaves ended as it had before. -/
theorem asked_service (kind : ServiceKind σ ι ε) {s : σ} (service : c.service = some s) :
    ∃ s', (c.asked kind s).service = some s' ∧ kind.ended s' = kind.ended s := by
  unfold asked
  split
  · exact ⟨s, service, rfl⟩
  · exact ⟨kind.shutDown s, rfl, kind.ended_shutDown s⟩

theorem drop_service (kind : ServiceKind σ ι ε) {s : σ} (service : c.service = some s) :
    ∃ s', (c.drop kind).service = some s' ∧ kind.ended s' = kind.ended s := by
  unfold drop
  split
  · rename_i hs
    cases hs.symm.trans service
    split
    · exact ⟨s, service, rfl⟩
    · exact ⟨kind.shutDown s, rfl, kind.ended_shutDown s⟩
  · rename_i hs
    cases hs.symm.trans service

theorem drop_unheld (kind : ServiceKind σ ι ε) (service : c.service = none) :
    (c.drop kind).service = none := by
  simp [drop, service]

/-- A stop that finds the end of the run pending stops a coordinator that ran,
and leaves one that failed as it is. -/
theorem asked_state {s : σ}
    (state : c.state = .failed ∨ c.state = if c.latched then .stopping else .running) :
    (c.asked kind s).state = .failed ∨ (c.asked kind s).state = .stopping := by
  unfold asked
  cases hl : c.latched with
  | true => simpa [hl] using state
  | false =>
    rw [hl] at state
    rcases state with state | state <;> simp [state]

/-- A stop that finds the run over changes no state of it. -/
theorem asked_state_over {s : σ}
    (state : c.state = .failed ∨ (c.state = .stopped ∧ c.latched = true)) :
    (c.asked kind s).state = c.state := by
  unfold asked
  split
  · rfl
  · rename_i hl
    simp [state.resolve_right fun h => hl h.2]

/-! ## From phase to phase -/

namespace Phase

theorem drop (h : Phase kind c) (rest : c.AtRest) : Phase kind (c.drop kind) := by
  cases h with
  | unheld service call state latched collected =>
    exact .unheld (drop_unheld kind service) (by simpa using call) (by simpa using state)
      (by simpa using latched) (by simpa using collected)
  | starting _ call => simp [rest.1] at call
  | held service call state completion collected =>
    obtain ⟨s', service', -⟩ := drop_service kind service
    exact .held service' (.inl (by simpa using rest.1)) (by simpa using state)
      (by simpa using completion) (by simpa using collected)
  | finished service call ended state completion collected =>
    obtain ⟨s', service', ended'⟩ := drop_service kind service
    exact .finished service' (by simpa using call) (ended'.trans ended) (by simpa using state)
      (by simpa using completion) (by simpa using collected)

theorem stop (h : Phase kind c) (rest : c.AtRest) {s : σ} (service : c.service = some s) :
    (c.completion = .pending → Phase kind { c.asked kind s with call := .stop }) ∧
    (c.completion ≠ .pending → Phase kind (c.asked kind s)) := by
  obtain ⟨s', service', ended'⟩ := asked_service kind service
  constructor
  · intro pending
    obtain ⟨state, collected⟩ := h.of_pending pending
    refine .held service' (.inr ⟨rfl, by simp, by simpa using rest.2⟩) ?_ (by simpa using pending)
      (by simpa using collected)
    simpa using asked_state state
  · intro settled
    obtain ⟨ended, completion, collected, state⟩ := h.of_settled rest.1 service settled
    obtain ⟨how, ended⟩ := Option.isSome_iff_exists.mp ended
    refine .finished service' (by simpa using rest.1) (ended'.trans ended) ?_
      (by simpa using completion) (by simpa using collected)
    -- A stop that comes late sets the latch of a coordinator that failed.
    rw [asked_state_over state, asked_latched]
    exact state.imp_right fun h => ⟨h.1, rfl⟩

theorem happens (h : Phase kind c) {s s' : σ} {event : ι} (service : c.service = some s)
    (goesOn : kind.step s event = some s') : Phase kind { c with service := some s' } := by
  cases h with
  | unheld hs => simp [hs] at service
  | starting _ call state completion latched dropped collected =>
    exact .starting rfl call state completion latched dropped collected
  | held _ call state completion collected => exact .held rfl call state completion collected
  | finished hs _ ended =>
    rw [hs] at service
    cases service
    rw [kind.step_ended _ event (by simp [ended])] at goesOn
    cases goesOn

/-- Every move leads to a phase, but for a start that is given up. -/
theorem move (h : Phase kind c) (m : Move kind c label d answer)
    (patient : label = .giveUp → ∀ seen, c.call ≠ .start seen) : Phase kind d := by
  cases m with
  | startAgain => exact h
  | unbuilt rest fresh =>
    obtain ⟨service, -, latched, collected⟩ := h.of_fresh fresh
    exact .unheld service rest.1 (.inr ⟨rfl, rfl⟩) latched collected
  | built rest fresh =>
    obtain ⟨-, completion, latched, collected⟩ := h.of_fresh fresh
    exact .starting rfl rfl rfl completion latched rest.2 collected
  | exited _ _ service ended => exact .finished service rfl ended (.inl rfl) rfl rfl
  | ready _ call service =>
    obtain ⟨-, -, latched, -, collected⟩ := h.of_start call
    exact .held service (.inl rfl) (.inr (by simp [latched])) rfl collected
  | waits => exact h
  | sees call service =>
    obtain ⟨state, completion, latched, dropped, collected⟩ := h.of_start call
    exact .starting service rfl state completion latched dropped collected
  | timedOut call service =>
    obtain ⟨-, -, -, -, collected⟩ := h.of_start call
    exact .held service (.inl rfl) (.inl rfl) rfl collected
  | stopIdle => exact h
  | stopWaits rest service pending => exact (h.stop rest service).1 pending
  | stopOver rest service settled => exact (h.stop rest service).2 settled
  | waitsEnd => exact h
  | stopEnds call service ended =>
    obtain ⟨state, -, latched, -, -⟩ := h.of_stop call
    refine .finished service rfl ended ?_ rfl rfl
    rename_i how
    cases how with
    | returned => rcases state with state | state <;> simp [stateAfter, state, latched]
    | failed | panicked => exact .inl rfl
  | givesUp calls =>
    -- Only a stop is left to be given up, and it left the end of the run pending.
    have call : c.call = .stop := by
      cases hc : c.call with
      | none => exact absurd hc calls
      | start seen => exact absurd hc (patient rfl seen)
      | stop => rfl
    obtain ⟨state, completion, latched, dropped, collected⟩ := h.of_stop call
    cases h with
    | held service _ state => exact .held service (.inl rfl) state completion collected
    | unheld _ hcall | starting _ hcall | finished _ hcall => simp [hcall] at call
  | drops rest => exact h.drop rest
  | happens service goesOn => exact h.happens service goesOn

/-- An end of the run that was seen stays. -/
theorem ended (h : Phase kind c) (m : Move kind c label d answer) {how : RunEnd ε}
    (hend : c.ended kind = some how) : d.ended kind = some how := by
  obtain ⟨s, service, ended⟩ := Option.bind_eq_some_iff.mp hend
  cases m with
  | built rest fresh =>
    rw [(h.of_fresh fresh).1] at service
    cases service
  | stopWaits rest hs | stopOver rest hs =>
    cases hs.symm.trans service
    obtain ⟨s', service', ended'⟩ := asked_service kind service
    exact Option.bind_eq_some_iff.mpr ⟨s', service', ended'.trans ended⟩
  | drops =>
    obtain ⟨s', service', ended'⟩ := drop_service kind service
    exact Option.bind_eq_some_iff.mpr ⟨s', service', ended'.trans ended⟩
  | @happens s₁ _ event hs goesOn =>
    cases hs.symm.trans service
    rw [kind.step_ended _ event (by simp [ended])] at goesOn
    cases goesOn
  | startAgain | unbuilt | exited | ready | waits | sees | timedOut | stopIdle | waitsEnd
  | stopEnds | givesUp => exact hend

end Phase

end TelemetrySidecar.Coordinator

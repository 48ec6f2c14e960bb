import TelemetrySidecar.Proofs.Service.History

/-
  How often a service is asked to shut down

  A service is asked to shut down by the first stop that finds it, or by the
  drop of a coordinator nobody stopped. Who comes later only notes so.

  What is proved: every move keeps the count of shutdowns at one from the moment
  that a stop or a drop found a service, and at none before
  (`Move.shutdowns`). In a patient history there was therefore one shutdown or
  none, none if nothing was built, and whenever a stop returns no run goes on
  (`shut_down_once`).
-/

namespace TelemetrySidecar.Coordinator

variable {σ ι ε : Type} {kind : ServiceKind σ ι ε}

/-- A stop or a drop found a service. -/
def Moment.findsService (m : Moment σ ι ε) : Bool :=
  match m.label with
  | .stop | .drop => m.before.service.isSome
  | _ => false

/-- Whether a stop or a drop has found a service. -/
def found (c : Coordinator σ) : Bool := c.latched || (c.dropped && c.service.isSome)

section

variable {c d : Coordinator σ} {label : Label σ ι ε} {answer : Option (Answer ε)}

theorem asked_shutdowns (c : Coordinator σ) (s : σ) :
    (c.asked kind s).shutdowns = if c.latched then c.shutdowns else c.shutdowns + 1 := by
  unfold asked
  split
  · rfl
  · rfl

theorem drop_shutdowns {s : σ} (service : c.service = some s) :
    (c.drop kind).shutdowns = if c.latched then c.shutdowns else c.shutdowns + 1 := by
  unfold drop
  rw [service]
  dsimp only
  split
  · rfl
  · rfl

/-- Who finds a service first counts a shutdown, and nobody else does. -/
theorem Move.shutdowns (m : Move kind c label d answer)
    (h : c.shutdowns = if c.found then 1 else 0) :
    d.found = (c.found || Moment.findsService ⟨c, label, d, answer⟩) ∧
      d.shutdowns = if d.found then 1 else 0 := by
  cases m with
  | startAgain | unbuilt | waits | sees | timedOut | waitsEnd | stopEnds | givesUp =>
    exact ⟨by simp [found, Moment.findsService], h⟩
  | built rest =>
    have hd : c.dropped = false := rest.2
    exact ⟨by simp [found, Moment.findsService, hd], by simpa [found, hd] using h⟩
  | exited looks | ready looks =>
    rcases looks with rfl | rfl <;> exact ⟨by simp [found, Moment.findsService], h⟩
  | stopIdle _ unheld => exact ⟨by simp [Moment.findsService, unheld], h⟩
  | @stopWaits s rest service | @stopOver s rest service =>
    have hd : c.dropped = false := rest.2
    refine ⟨by simp [found, Moment.findsService, service], ?_⟩
    -- At rest nothing is dropped, so the latch tells whether a shutdown was counted.
    cases hl : c.latched <;> simp [found, asked_shutdowns, hl, hd, h]
  | drops rest =>
    have hd : c.dropped = false := rest.2
    cases service : c.service with
    | none =>
      have hnone := drop_unheld kind service
      refine ⟨by simp [found, Moment.findsService, service, hnone], ?_⟩
      simpa [found, hnone, service, drop] using h
    | some s =>
      obtain ⟨s', hsome, -⟩ := drop_service kind service
      refine ⟨by simp [found, Moment.findsService, service, hsome], ?_⟩
      cases hl : c.latched <;> simp [found, drop_shutdowns service, hl, hd, hsome, h]
  | happens service =>
    exact ⟨by simp [found, Moment.findsService, service], by simpa [found, service] using h⟩

/-! ## Where nothing was built -/

/-- Only the first start brings a service. -/
theorem Move.unheld (m : Move kind c label d answer) (h : c.service = none) :
    d.service = none ∨ (c.state = .notStarted ∧ ∃ built, label = .start built) := by
  cases m with
  | built _ fresh => exact .inr ⟨fresh, _, rfl⟩
  | drops => exact .inl (drop_unheld kind h)
  | stopWaits _ service | stopOver _ service | happens service => simp [h] at service
  | startAgain | unbuilt | exited | ready | waits | sees | timedOut | stopIdle | waitsEnd
  | stopEnds | givesUp => exact .inl h

/-- A start that was called stays so. -/
theorem Move.begun (m : Move kind c label d answer) (h : c.state ≠ .notStarted) :
    d.state ≠ .notStarted := by
  cases m with
  | stopWaits | stopOver =>
    simp only [asked]
    split
    · exact h
    · dsimp only
      split
      · simp
      · exact h
  | @stopEnds s how =>
    cases how with
    | returned =>
      simp only [stateAfter]
      split
      · simp
      · exact h
    | failed | panicked => simp [stateAfter]
  | drops => simpa using h
  | unbuilt | built | exited | ready | timedOut => simp
  | startAgain | waits | sees | stopIdle | waitsEnd | givesUp | happens => exact h

/-- A stop returns when there is no service or its run has ended. -/
theorem Moment.over_of_endsStop {m : Moment σ ι ε} (phase : Phase kind m.before)
    (move : Move kind m.before m.label m.after m.answer) (h : m.EndsStop) :
    m.after.service = none ∨ (m.after.ended kind).isSome := by
  obtain ⟨c, label, d, answer⟩ := m
  obtain ⟨hcall, hanswer⟩ := h
  dsimp only at phase move hcall hanswer ⊢
  cases move with
  | stopIdle _ unheld => exact .inl unheld
  | @stopOver s rest service settled =>
    obtain ⟨ended, -⟩ := phase.of_settled rest.1 service settled
    obtain ⟨s', service', ended'⟩ := asked_service kind service
    exact .inr (by simpa [Coordinator.ended, service', ended'] using ended)
  | stopEnds _ service ended => exact .inr (by simp [Coordinator.ended, service, ended])
  | exited looks call | ready looks call =>
    rcases looks with rfl | rfl <;> simp [call] at hcall
  | startAgain | unbuilt | timedOut => simp at hcall
  | built | waits | sees | stopWaits | waitsEnd | givesUp | drops | happens => simp at hanswer

end

/-! ## Over a history -/

variable {timeoutMs : Nat} {past : List (Moment σ ι ε)} {c : Coordinator σ}

namespace History

theorem shutdowns (h : History kind timeoutMs past c) :
    c.found = past.any Moment.findsService ∧ c.shutdowns = if c.found then 1 else 0 := by
  induction h with
  | new => exact ⟨rfl, rfl⟩
  | next _ step ih =>
    obtain ⟨hfound, hcount⟩ := (move_of_step step).shutdowns ih.2
    refine ⟨?_, hcount⟩
    rw [hfound, ih.1, List.any_append]
    simp

/-- Without a start there is no service. -/
theorem unheld_of_unstarted (h : History kind timeoutMs past c)
    (hnot : ∀ m ∈ past, ∀ built, m.label ≠ .start built) : c.service = none := by
  induction h with
  | new => rfl
  | next _ step ih =>
    rw [List.forall_mem_append] at hnot
    refine ((move_of_step step).unheld (ih hnot.1)).resolve_right ?_
    rintro ⟨-, built, hlabel⟩
    exact hnot.2 _ List.mem_cons_self built hlabel

/-- Once the factory has failed there is no service. -/
theorem unheld_of_unbuilt (h : History kind timeoutMs past c) (hp : Patient past)
    {m : Moment σ ι ε} (hm : m ∈ past) {error : ε}
    (hfail : m.answer = some (.error (.build error))) : c.service = none := by
  have hmoment := fun m (hm : m ∈ past) => h.moment hp hm
  have hafter : m.after.service = none ∧ m.after.state ≠ .notStarted := by
    obtain ⟨phase, move⟩ := hmoment m hm
    obtain ⟨b, label, d, answer⟩ := m
    dsimp only at phase move hfail ⊢
    cases move with
    | unbuilt _ fresh => exact ⟨(phase.of_fresh fresh).1, by simp⟩
    | @exited _ seen _ how =>
      cases how with
      | returned => cases seen <;> simp [startError] at hfail
      | failed | panicked => simp [startError] at hfail
    | @stopEnds _ how => cases how <;> simp [stopAnswer] at hfail
    | startAgain | built | ready | waits | sees | timedOut | stopIdle | stopWaits | stopOver
    | waitsEnd | givesUp | drops | happens => simp at hfail
  refine (h.persists (P := fun c => c.service = none ∧ c.state ≠ .notStarted) ?_ m hm hafter).1
  rintro n hn ⟨service, begun⟩
  have move := (hmoment n hn).2
  exact ⟨(move.unheld service).resolve_right fun h => begun h.1, move.begun begun⟩

end History

theorem shutdowns_of_unheld (h : History kind timeoutMs past c) (hp : Patient past)
    (unheld : c.service = none) : c.shutdowns = 0 := by
  have hlatched : c.latched = false := by
    cases h.phase hp with
    | unheld _ _ _ latched => exact latched
    | starting service | held service | finished service => simp [unheld] at service
  rw [h.shutdowns.2]
  simp [found, unheld, hlatched]

/-- In a patient history the service was asked once to shut down if a stop or a
drop found it, and else not at all; so not if no start was called or the factory
failed. Whenever a stop returns, no run goes on. -/
theorem shut_down_once (h : History kind timeoutMs past c) (hp : Patient past) :
    c.shutdowns = (if past.any Moment.findsService then 1 else 0) ∧
    ((∀ m ∈ past, ∀ built, m.label ≠ .start built) → c.shutdowns = 0) ∧
    ((∃ m ∈ past, ∃ error, m.answer = some (.error (.build error))) → c.shutdowns = 0) ∧
    ∀ m ∈ past, m.EndsStop → m.after.service = none ∨ (m.after.ended kind).isSome := by
  obtain ⟨hfound, hcount⟩ := h.shutdowns
  refine ⟨by rw [hcount, hfound], ?_, ?_, ?_⟩
  · intro hnot
    exact shutdowns_of_unheld h hp (h.unheld_of_unstarted hnot)
  · rintro ⟨m, hm, error, hfail⟩
    exact shutdowns_of_unheld h hp (h.unheld_of_unbuilt hp hm hfail)
  · intro m hm hstop
    obtain ⟨phase, move⟩ := h.moment hp hm
    exact Moment.over_of_endsStop phase move hstop

/-- A service that is not ready in time is stopped twice, the first stop given up,
and the coordinator dropped. -/
def lateStop : List (Label (AnyService String) (AnyService.Event String) String) :=
  [.stop, .start (.ok {}), .expire, .stop, .look, .giveUp, .stop,
    .service (.finish .returned), .look, .drop]

theorem shut_down_once_lateStop :
    ∃ past c, take (AnyService.kind String) lateStop { timeoutMs := 10 } = some (past, c) ∧
      Patient past ∧ past.any Moment.findsService = true ∧ c.shutdowns = 1 ∧
      ∀ m ∈ past, m.EndsStop →
        m.after.service = none ∨ (m.after.ended (AnyService.kind String)).isSome := by
  obtain ⟨past, c, htake, hp, hfinds⟩ : ∃ past c,
      take (AnyService.kind String) lateStop { timeoutMs := 10 } = some (past, c) ∧
      Patient past ∧ past.any Moment.findsService = true :=
    ⟨_, _, rfl, by simp [Patient], rfl⟩
  obtain ⟨hcount, -, -, hover⟩ := shut_down_once (History.new.take htake) hp
  rw [List.nil_append, hfinds] at hcount
  exact ⟨past, c, htake, hp, hfinds, hcount, hover⟩

end TelemetrySidecar.Coordinator

import TelemetrySidecar.Proofs.Service.Report
import TelemetrySidecar.Proofs.Service.Shutdown

/-
  Starts that are given up

  A start hands the end of the run over to later stops only when it answers.
  Its caller may give it up before that. The service runs on, but nothing was
  handed over: the coordinator is abandoned (`Abandoned`), and no call that
  comes later waits for the run or learns how it ended.

  What is proved: no move leads out of this (`Abandoned.move`), and a
  coordinator is in one of the phases or abandoned, whatever was given up
  (`History.phase_or_abandoned`). After a start that was given up every stop
  answers at once that all is well; it keeps the promise of a stop, to wait for
  the end of the run and to answer what that end means (`Moment.Heeds`), only
  if the run had ended well before the stop was called
  (`unheeded_after_giveUp`).
-/

namespace TelemetrySidecar.Coordinator

variable {σ ι ε : Type} {kind : ServiceKind σ ι ε} {c d : Coordinator σ}
  {label : Label σ ι ε} {answer : Option (Answer ε)}

/-- The service was started, and nobody was left to wait for it. -/
structure Abandoned (c : Coordinator σ) : Prop where
  service : c.service.isSome
  call : c.call = .none
  state : c.state = .starting
  completion : c.completion = .idle

namespace Abandoned

theorem shown (h : Abandoned c) : c.shown kind = .starting := by
  simp [Coordinator.shown, h.state]

theorem asked (h : Abandoned c) (s : σ) : Abandoned (c.asked kind s) := by
  refine ⟨?_, by simpa using h.call, ?_, by simpa using h.completion⟩
  · unfold Coordinator.asked
    split
    · exact h.service
    · rfl
  · unfold Coordinator.asked
    split
    · exact h.state
    · simp [h.state]

/-- An abandoned coordinator stays so, whatever happens. -/
theorem move (h : Abandoned c) (m : Move kind c label d answer) : Abandoned d := by
  -- No call is in progress, so none looks at the service or runs out of time.
  have idle : ∀ {call : Call}, c.call = call → call ≠ .none → False :=
    fun hcall hne => hne (hcall.symm.trans h.call)
  cases m with
  | startAgain => exact h
  | unbuilt _ fresh | built _ fresh => simp [h.state] at fresh
  | exited _ call | ready _ call | waits call | sees call | timedOut call | waitsEnd call
  | stopEnds call => exact (idle call (by simp)).elim
  | stopIdle => exact h
  | stopWaits _ _ pending => simp [h.completion] at pending
  | stopOver => exact h.asked _
  | givesUp calls => exact absurd h.call calls
  | drops =>
    obtain ⟨s, service⟩ := Option.isSome_iff_exists.mp h.service
    obtain ⟨s', service', -⟩ := drop_service kind service
    exact ⟨by simp [service'], by simpa using h.call, by simpa using h.state,
      by simpa using h.completion⟩
  | happens => exact ⟨rfl, h.call, h.state, h.completion⟩

end Abandoned

/-- A start that is given up leaves the coordinator abandoned. -/
theorem Phase.abandoned (h : Phase kind c) {seen : Option ServiceState}
    (call : c.call = .start seen) (m : Move kind c .giveUp d answer) : Abandoned d := by
  obtain ⟨state, completion, -⟩ := h.of_start call
  cases m with
  | exited looks | ready looks => simp [Label.Looks] at looks
  | givesUp =>
    cases h with
    | starting service => exact ⟨by simp [service], rfl, state, completion⟩
    | unheld _ hcall | finished _ hcall => simp [hcall] at call
    | held _ hcall => rcases hcall with hcall | ⟨hcall, -⟩ <;> simp [hcall] at call

theorem Phase.move_or_abandoned (h : Phase kind c) (m : Move kind c label d answer) :
    Phase kind d ∨ Abandoned d := by
  by_cases gaveUp : label = .giveUp ∧ ∃ seen, c.call = .start seen
  · obtain ⟨rfl, seen, call⟩ := gaveUp
    exact .inr (h.abandoned call m)
  · exact .inl (h.move m fun hlabel seen call => gaveUp ⟨hlabel, seen, call⟩)

/-! ## What the calls of an abandoned coordinator answer -/

namespace Moment

variable {m : Moment σ ι ε}

/-- A stop keeps its promise: it answered once the run had ended, and answered
what that end means. -/
def Heeds (kind : ServiceKind σ ι ε) (m : Moment σ ι ε) : Prop :=
  ∃ how, m.after.ended kind = some how ∧ m.answer = some (stopAnswer how)

/-- Every stop answers at once that all is well. -/
theorem stops_at_once (h : Abandoned m.before)
    (move : Move kind m.before m.label m.after m.answer) (stop : m.label = .stop) :
    m.answer = some (.ok ()) ∧ m.after.latched = true ∧
      m.after.ended kind = m.before.ended kind := by
  obtain ⟨c, label, d, answer⟩ := m
  dsimp only at h move stop ⊢
  subst stop
  cases move with
  | exited looks | ready looks => simp [Label.Looks] at looks
  | stopIdle _ unheld => exact absurd h.service (by simp [unheld])
  | stopWaits _ _ pending => simp [h.completion] at pending
  | stopOver _ service =>
    obtain ⟨s', service', ended'⟩ := asked_service kind service
    exact ⟨rfl, asked_latched .., by simp [Coordinator.ended, service, service', ended']⟩

/-- No call but a stop answers in place of one. -/
theorem endsStop_iff (h : Abandoned m.before)
    (move : Move kind m.before m.label m.after m.answer) : m.EndsStop ↔ m.label = .stop := by
  constructor
  · rintro ⟨stop | ⟨-, call⟩, -⟩
    · exact stop
    · simp [h.call] at call
  · intro stop
    exact ⟨.inl stop, by simp [(stops_at_once h move stop).1]⟩

/-- Who learns how a run ended is in a call that waits for it. -/
theorem silent (h : Abandoned m.before)
    (move : Move kind m.before m.label m.after m.answer) : m.reports = false := by
  obtain ⟨c, label, d, answer⟩ := m
  dsimp only at h move
  cases move with
  | exited _ call | stopEnds call => simp [h.call] at call
  | startAgain | unbuilt | built | ready | waits | sees | timedOut | stopIdle | stopWaits
  | stopOver | waitsEnd | givesUp | drops | happens => rfl

/-- An answer that all is well is what a good end means, and no other end. -/
theorem heeds_iff (ok : m.answer = some (.ok ())) :
    m.Heeds kind ↔ m.after.ended kind = some .returned := by
  constructor
  · rintro ⟨how, ended, answer⟩
    cases how with
    | returned => exact ended
    | failed | panicked => simp [ok, stopAnswer] at answer
  · intro ended
    exact ⟨.returned, ended, ok⟩

end Moment

/-! ## Over a history -/

variable {timeoutMs : Nat} {past earlier later : List (Moment σ ι ε)} {g : Moment σ ι ε}

namespace History

/-- A coordinator is in a phase or abandoned. -/
theorem phase_or_abandoned (h : History kind timeoutMs past c) : Phase kind c ∨ Abandoned c := by
  induction h with
  | new => exact .inl (phase_new timeoutMs)
  | next _ step ih =>
    rcases ih with phase | abandoned
    · exact phase.move_or_abandoned (move_of_step step)
    · exact .inr (abandoned.move (move_of_step step))

/-- From a start that was given up on the coordinator is abandoned. -/
theorem abandoned (h : History kind timeoutMs (earlier ++ g :: later) c)
    (giveUp : g.label = .giveUp) {seen : Option ServiceState} (call : g.before.call = .start seen) :
    Abandoned c := by
  obtain ⟨before, step⟩ := h.cut
  refine h.since (P := fun _ => Abandoned) ?_ fun _ _ _ step h => h.move (move_of_step step)
  rcases before.phase_or_abandoned with phase | abandoned
  · rw [giveUp] at step
    exact phase.abandoned call (move_of_step step)
  · simp [abandoned.call] at call

end History

/-- After a start that was given up the service is shown as starting for ever
and no call reports how its run ended. Every stop answers at once that all is
well, and this is the promised answer only if the run had ended well by then. -/
theorem unheeded_after_giveUp (h : History kind timeoutMs (earlier ++ g :: later) c)
    (giveUp : g.label = .giveUp) {seen : Option ServiceState} (call : g.before.call = .start seen) :
    c.shown kind = .starting ∧ (∀ m ∈ later, m.reports = false) ∧
    ∀ m ∈ later, (m.EndsStop ↔ m.label = .stop) ∧
      (m.label = .stop → m.answer = some (.ok ()) ∧ m.after.shutdowns = 1 ∧
        (m.Heeds kind ↔ m.before.ended kind = some .returned)) := by
  -- Whatever came between, each later moment begins with an abandoned coordinator.
  have since : ∀ m ∈ later, ∃ past, History kind timeoutMs past m.after ∧ Abandoned m.before ∧
      Move kind m.before m.label m.after m.answer := by
    intro m hm
    obtain ⟨between, rest, rfl⟩ := List.append_of_mem hm
    rw [← List.cons_append, ← List.append_assoc] at h
    obtain ⟨before, step⟩ := h.cut
    exact ⟨_, before.next step, before.abandoned giveUp call, move_of_step step⟩
  refine ⟨(h.abandoned giveUp call).shown, fun m hm => ?_, fun m hm => ?_⟩
  · obtain ⟨-, -, abandoned, move⟩ := since m hm
    exact Moment.silent abandoned move
  · obtain ⟨past, after, abandoned, move⟩ := since m hm
    refine ⟨Moment.endsStop_iff abandoned move, fun stop => ?_⟩
    obtain ⟨ok, latched, ended⟩ := Moment.stops_at_once abandoned move stop
    refine ⟨ok, ?_, ?_⟩
    · rw [after.shutdowns.2]
      simp [found, latched]
    · rw [Moment.heeds_iff ok, ended]

/-- A start is given up before the service is ready. One stop is called while the
service runs, and one after it failed. -/
def givenUpStart : List (Label (AnyService String) (AnyService.Event String) String) :=
  [.start (.ok {}), .look, .giveUp, .stop, .service (.finish (.failed "boom")), .stop]

/-- One stop returns while the run goes on, the other says that all is well with a
run that failed. -/
theorem givenUpStart_unheeded :
    ∃ earlier g later c,
      take (AnyService.kind String) givenUpStart { timeoutMs := 1000 } =
        some (earlier ++ g :: later, c) ∧
      g.label = .giveUp ∧ g.before.call = .start none ∧
      (∃ m ∈ later, m.EndsStop ∧ m.after.ended (AnyService.kind String) = none ∧
        ¬ m.Heeds (AnyService.kind String)) ∧
      ∃ m ∈ later, m.EndsStop ∧ m.answer = some (.ok ()) ∧
        m.before.ended (AnyService.kind String) = some (.failed "boom") ∧
        ¬ m.Heeds (AnyService.kind String) := by
  refine ⟨[_, _], _, [_, _, _], _, rfl, rfl, rfl, ?_, ?_⟩
  · refine ⟨_, List.mem_of_getElem? (i := 0) rfl, ⟨.inl rfl, rfl⟩, rfl, ?_⟩
    rintro ⟨how, ended, -⟩
    cases ended
  · refine ⟨_, List.mem_of_getElem? (i := 2) rfl, ⟨.inl rfl, rfl⟩, rfl, rfl, ?_⟩
    rintro ⟨how, ended, answer⟩
    cases ended
    cases answer

theorem unheeded_after_givenUpStart :
    ∃ earlier g later c,
      take (AnyService.kind String) givenUpStart { timeoutMs := 1000 } =
        some (earlier ++ g :: later, c) ∧
      g.label = .giveUp ∧ g.before.call = .start none ∧
      c.shown (AnyService.kind String) = .starting ∧ (∀ m ∈ later, m.reports = false) ∧
      ∀ m ∈ later, (m.EndsStop ↔ m.label = .stop) ∧
        (m.label = .stop → m.answer = some (.ok ()) ∧ m.after.shutdowns = 1 ∧
          (m.Heeds (AnyService.kind String) ↔
            m.before.ended (AnyService.kind String) = some .returned)) := by
  obtain ⟨earlier, g, later, c, htake, giveUp, call⟩ : ∃ earlier g later c,
      take (AnyService.kind String) givenUpStart { timeoutMs := 1000 } =
        some (earlier ++ g :: later, c) ∧ g.label = .giveUp ∧ g.before.call = .start none :=
    ⟨[_, _], _, [_, _, _], _, rfl, rfl, rfl⟩
  have h : History (AnyService.kind String) 1000 (earlier ++ g :: later) c := History.new.take htake
  exact ⟨earlier, g, later, c, htake, giveUp, call, unheeded_after_giveUp h giveUp call⟩

end TelemetrySidecar.Coordinator

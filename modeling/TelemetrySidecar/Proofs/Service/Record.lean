import TelemetrySidecar.Proofs.Service.Report
import TelemetrySidecar.Proofs.Service.Start

/-
  What a coordinator has on record

  A coordinator keeps the state of its service, the service, what it knows of the
  end of the run and whether it asked for the shutdown in fields of their own, and
  each call changes some of them. Between the calls they agree (`Agrees`).

  What is proved, of a patient history: the fields agree whenever no start is in
  progress, also while a stop waits; a service is built at most once, and starts
  after the first answer that they come too late and change nothing; nobody looks
  for the end of the run after it was seen (`record_agrees`). The phases tell all
  of this but for two things. Where a coordinator that failed has yet to collect the
  end, the start ran out of time (`History.late_of_failed`), and no start but the
  first builds (`History.built_once`).
-/

namespace TelemetrySidecar.Coordinator

variable {σ ι ε : Type} {kind : ServiceKind σ ι ε} {timeoutMs : Nat}

/-- The start answered that the service was not ready in time. -/
def RanLate (timeoutMs : Nat) (past : List (Moment σ ι ε)) : Prop :=
  ∃ m ∈ past, m.StartAnswers (.error (.startTimeout timeoutMs))

/-- What the fields of a coordinator say of each other while no start is in progress. -/
structure Agrees (kind : ServiceKind σ ι ε) (timeoutMs : Nat) (past : List (Moment σ ι ε))
    (c : Coordinator σ) : Prop where
  fresh_iff : c.state = .notStarted ↔ c.completion = .idle
  fresh : c.state = .notStarted → c.service = none ∧ c.latched = false
  settled : c.state ≠ .starting
  running : c.state = .running → c.service.isSome ∧ c.completion = .pending ∧ c.latched = false
  stopping : c.state = .stopping → c.service.isSome ∧ c.completion = .pending ∧ c.latched = true
  stopped : c.state = .stopped → c.service.isSome ∧ c.completion = .done ∧ c.latched = true
  failed : c.state = .failed →
    c.completion = .done ∨ (c.completion = .pending ∧ RanLate timeoutMs past)
  latched : c.latched = true → c.service.isSome
  shown : c.shown kind = .running → c.service.isSome ∧ c.ended kind = none

section

variable {c d : Coordinator σ} {label : Label σ ι ε} {answer : Option (Answer ε)}
  {past : List (Moment σ ι ε)}

/-! ## What each phase says -/

/-- The fields agree in every phase but that of a start in progress. Of a failure
whose end is yet to be collected the phase does not say where it came from. -/
theorem Phase.agrees (h : Phase kind c) (call : ∀ seen, c.call ≠ .start seen)
    (late : c.state = .failed → c.completion = .pending → RanLate timeoutMs past) :
    Agrees kind timeoutMs past c := by
  cases h with
  | unheld service _ state latched =>
    rcases state with ⟨state, completion⟩ | ⟨state, completion⟩ <;>
      constructor <;> simp [Coordinator.shown, service, state, completion, latched]
  | starting _ starts => exact absurd starts (call _)
  | held service _ state completion =>
    rcases state with state | state
    · have late := late state completion
      constructor <;> simp [Coordinator.shown, service, state, completion, late]
    · cases latched : c.latched <;> rw [latched] at state <;>
        constructor <;> simp [Coordinator.shown, service, state, completion, latched]
  | finished service _ _ state completion =>
    rcases state with state | ⟨state, latched⟩
    · constructor <;> simp [Coordinator.shown, service, state, completion]
    · constructor <;> simp [Coordinator.shown, service, state, completion, latched]

/-! ## What one step does -/

@[simp] theorem asked_builds (s : σ) : (c.asked kind s).builds = c.builds := by
  unfold asked
  split <;> rfl

@[simp] theorem drop_builds : (c.drop kind).builds = c.builds := by
  obtain ⟨_, _, h⟩ := drop_eq kind c
  rw [h]

/-- A stop records no failure. -/
theorem failed_of_asked {s : σ} (failed : (c.asked kind s).state = .failed) :
    c.state = .failed := by
  unfold asked at failed
  split at failed
  · exact failed
  · by_cases running : c.state = .running
    · simp [running] at failed
    · simpa [running] using failed

/-- A coordinator fails with the end of the run left to collect only as its start runs
out of time. -/
theorem Move.late_of_failed (m : Move kind c label d answer) (failed : d.state = .failed)
    (pending : d.completion = .pending) :
    (c.state = .failed ∧ c.completion = .pending) ∨
      ((∃ seen, c.call = .start seen) ∧ answer = some (.error (.startTimeout c.timeoutMs))) := by
  cases m with
  | timedOut call => exact .inr ⟨⟨_, call⟩, rfl⟩
  | unbuilt | exited | stopEnds => simp at pending
  | built | ready => simp at failed
  | stopWaits | stopOver => exact .inl ⟨failed_of_asked failed, by simpa using pending⟩
  | drops => exact .inl ⟨by simpa using failed, by simpa using pending⟩
  | startAgain | waits | sees | stopIdle | waitsEnd | givesUp | happens =>
    exact .inl ⟨failed, pending⟩

/-- A service is built for the first start, and for no other. -/
theorem Move.builds (m : Move kind c label d answer) :
    d.builds = c.builds ∨
      (c.state = .notStarted ∧ d.state ≠ .notStarted ∧ d.builds = c.builds + 1) := by
  cases m with
  | unbuilt _ fresh | built _ fresh => exact .inr ⟨fresh, by simp, rfl⟩
  | stopWaits | stopOver | drops => exact .inl (by simp)
  | startAgain | exited | ready | waits | sees | timedOut | stopIdle | waitsEnd | stopEnds
  | givesUp | happens => exact .inl rfl

/-- A start that comes after another only says so. -/
theorem Move.of_startAgain {built : Except ε σ} (m : Move kind c (.start built) d answer)
    (begun : c.state ≠ .notStarted) : answer = some (.error .alreadyStarted) ∧ d = c := by
  cases m with
  | startAgain => exact ⟨rfl, rfl⟩
  | unbuilt _ fresh | built _ fresh => exact absurd fresh begun
  | exited looks | ready looks => rcases looks with h | h <;> cases h

/-- Who looks and finds that the run has ended takes its end. -/
theorem Move.collected_of_looks (m : Move kind c label d answer) (looks : label.Looks)
    (ended : (c.ended kind).isSome) : d.collected = true := by
  have goesOn : ∀ {s}, c.service = some s → kind.ended s = none → False := by
    intro s service goesOn
    simp [Coordinator.ended, service, goesOn] at ended
  cases m with
  | exited | stopEnds => rfl
  | ready _ _ service run | waits _ service run | sees _ service run
  | timedOut _ service run | waitsEnd _ service run => exact (goesOn service run).elim
  | startAgain | unbuilt | built | stopIdle | stopWaits | stopOver | givesUp | drops | happens =>
    simp [Label.Looks] at looks

/-- Only a call that waits for the end of the run looks, and then nobody has taken it. -/
theorem Phase.uncollected_of_looks (h : Phase kind c) (m : Move kind c label d answer)
    (looks : label.Looks) : c.collected = false := by
  cases m with
  | exited _ call | ready _ call | waits call | sees call | timedOut call =>
    exact (h.of_start call).2.2.2.2
  | waitsEnd call | stopEnds call => exact (h.of_stop call).2.2.2.2
  | startAgain | unbuilt | built | stopIdle | stopWaits | stopOver | givesUp | drops | happens =>
    simp [Label.Looks] at looks

end

/-! ## Over a history -/

variable {past earlier later : List (Moment σ ι ε)} {m : Moment σ ι ε} {c : Coordinator σ}

namespace History

/-- A coordinator that failed with the end of the run left to collect had a start that ran
out of time. -/
theorem late_of_failed (h : History kind timeoutMs past c) (failed : c.state = .failed)
    (pending : c.completion = .pending) : RanLate timeoutMs past := by
  induction h with
  | new => cases failed
  | next before step ih =>
    rcases (move_of_step step).late_of_failed failed pending with ⟨failed, pending⟩ | ⟨call, answer⟩
    · obtain ⟨n, hn, late⟩ := ih failed pending
      exact ⟨n, List.mem_append_left _ hn, late⟩
    · rw [before.timeoutMs_eq] at answer
      exact ⟨_, List.mem_append_right _ List.mem_cons_self, call, answer⟩

/-- A service is built at most once, and not before a start was called. -/
theorem built_once (h : History kind timeoutMs past c) :
    c.builds ≤ 1 ∧ (c.state = .notStarted → c.builds = 0) := by
  induction h with
  | new => exact ⟨Nat.zero_le _, fun _ => rfl⟩
  | @next past c d label answer before step ih =>
    have move := move_of_step step
    rcases move.builds with same | ⟨fresh, begun, more⟩
    · refine ⟨by omega, fun fresh => ?_⟩
      rw [same]
      by_cases was : c.state = .notStarted
      · exact ih.2 was
      · exact absurd fresh (move.begun was)
    · have := ih.2 fresh
      exact ⟨by omega, fun fresh => absurd fresh begun⟩

/-- Starts after another one answer that they come too late, and change nothing. -/
theorem startAgain (h : History kind timeoutMs (earlier ++ m :: later) c) {built : Except ε σ}
    (start : m.label = .start built) : ∀ n ∈ later, ∀ again, n.label = .start again →
      n.answer = some (.error .alreadyStarted) ∧ n.after = n.before := by
  intro n hn again hlabel
  have begun : m.after.state ≠ .notStarted := by
    have move := move_of_step h.cut.2
    rw [start] at move
    exact move.begun_of_start
  have begunThen := h.persists_before (P := (·.state ≠ .notStarted))
    (fun l hl => (h.move_of_mem hl).begun) begun n hn
  have move := h.move_of_mem (List.mem_append_right _ (List.mem_cons_of_mem _ hn))
  rw [hlabel] at move
  exact move.of_startAgain begunThen

/-- Once a look has seen the end of the run, none comes after it. -/
theorem no_look_after_end (h : History kind timeoutMs (earlier ++ m :: later) c)
    (hp : Patient (earlier ++ m :: later)) (looks : m.label.Looks)
    (ended : (m.before.ended kind).isSome) : ∀ n ∈ later, ¬ n.label.Looks := by
  intro n hn looksAgain
  have collected := (move_of_step h.cut.2).collected_of_looks looks ended
  have collectedThen := h.persists_before (P := (·.collected = true))
    (fun l hl => Moment.collected_mono (h.move_of_mem hl)) collected n hn
  obtain ⟨phase, move⟩ := h.moment hp (List.mem_append_right _ (List.mem_cons_of_mem _ hn))
  simp [phase.uncollected_of_looks move looksAgain] at collectedThen

end History

/-- In a patient history the fields agree while no start is in progress. A service is built
at most once; starts after another one say that they come too late and change nothing; and
once a look has seen the end of the run nobody looks for it again. -/
theorem record_agrees (h : History kind timeoutMs past c) (hp : Patient past) :
    ((∀ seen, c.call ≠ .start seen) → Agrees kind timeoutMs past c) ∧
    c.builds ≤ 1 ∧
    ∀ earlier m later, past = earlier ++ m :: later →
      (∀ built, m.label = .start built → ∀ n ∈ later, ∀ again, n.label = .start again →
        n.answer = some (.error .alreadyStarted) ∧ n.after = n.before) ∧
      (m.label.Looks → (m.before.ended kind).isSome → ∀ n ∈ later, ¬ n.label.Looks) := by
  refine ⟨fun call => (h.phase hp).agrees call h.late_of_failed, h.built_once.1, ?_⟩
  rintro earlier m later rfl
  exact ⟨fun built start => h.startAgain start, h.no_look_after_end hp⟩

/-- A service that is not ready in time is started once more, and stopped by a call that
is given up while it waits. -/
def lateService : List (Label (AnyService String) (AnyService.Event String) String) :=
  [.stop, .start (.ok {}), .look, .expire, .start (.ok {}), .stop, .look, .giveUp]

theorem record_agrees_lateService :
    ∃ past c, take (AnyService.kind String) lateService { timeoutMs := 10 } = some (past, c) ∧
      Patient past ∧ (∀ seen, c.call ≠ .start seen) ∧
      Agrees (AnyService.kind String) 10 past c ∧ c.builds ≤ 1 ∧
      c.state = .failed ∧ c.completion = .pending ∧ c.latched = true := by
  obtain ⟨past, c, htake, hp, hcall, hfields⟩ : ∃ past c,
      take (AnyService.kind String) lateService { timeoutMs := 10 } = some (past, c) ∧
      Patient past ∧ (∀ seen, c.call ≠ .start seen) ∧
      c.state = .failed ∧ c.completion = .pending ∧ c.latched = true :=
    ⟨_, _, rfl, by simp [Patient], by simp, rfl, rfl, rfl⟩
  obtain ⟨agrees, built, -⟩ := record_agrees (History.new.take htake) hp
  exact ⟨past, c, htake, hp, hcall, agrees hcall, built, hfields⟩

end TelemetrySidecar.Coordinator

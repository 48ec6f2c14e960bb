import TelemetrySidecar.Proofs.Service.History

/-
  Who reports how a run ended

  The end of a run is collected by the call that sees it: by a start that has
  not answered yet, or else by a stop. Only that call can report a failure of
  the run, and what it reports depends on the end alone.

  What is proved, of a patient history: a moment that reports a failure collects
  (`collects_of_reports`), a moment that collects is the answer of a start that
  saw the end or of a stop (`of_collects`), and both of these always collect
  (`collects_of_startSaw`, `collected_of_stops`). As the end is collected once,
  a failure is reported at most once, and exactly once if a stop ran to its end:
  by the start if it saw the end, and else by the first such stop
  (`failure_reported_once`).
-/

namespace TelemetrySidecar.Coordinator

variable {σ ι ε : Type} {kind : ServiceKind σ ι ε}

namespace Moment

/-- A call answered that the run failed, with an error or by a panic. -/
def reports (m : Moment σ ι ε) : Bool :=
  match m.answer with
  | some (.error (.run _)) | some (.error .panicked) => true
  | _ => false

/-- Somebody took the end of the run. -/
def Collects (m : Moment σ ι ε) : Prop :=
  m.before.collected = false ∧ m.after.collected = true

/-- A start that had not answered yet, and was not out of time before this look,
saw that the run has ended. -/
structure StartSaw (kind : ServiceKind σ ι ε) (m : Moment σ ι ε) : Prop where
  call : ∃ seen, m.before.call = .start seen
  looks : m.label.Looks
  ended : (m.before.ended kind).isSome

/-- A stop that found a service is run to its end. -/
structure Stops (m : Moment σ ι ε) : Prop extends m.EndsStop where
  service : m.before.service.isSome

/-! ## What a moment that collects is -/

variable {m : Moment σ ι ε}

theorem collected_mono (move : Move kind m.before m.label m.after m.answer) :
    m.before.collected = true → m.after.collected = true := by
  obtain ⟨c, label, d, answer⟩ := m
  intro hc
  dsimp only at hc move ⊢
  cases move with
  | exited | stopEnds => rfl
  | stopWaits | stopOver | drops => simpa using hc
  | startAgain | unbuilt | built | ready | waits | sees | timedOut | stopIdle | waitsEnd
  | givesUp | happens => exact hc

/-- A moment that reports a failure of the run takes its end. -/
theorem collects_of_reports (phase : Phase kind m.before)
    (move : Move kind m.before m.label m.after m.answer) (h : m.reports = true) :
    m.Collects := by
  obtain ⟨c, label, d, answer⟩ := m
  dsimp only at phase move
  cases move with
  | exited _ call => exact ⟨(phase.of_start call).2.2.2.2, rfl⟩
  | stopEnds call => exact ⟨(phase.of_stop call).2.2.2.2, rfl⟩
  | startAgain | unbuilt | built | ready | waits | sees | timedOut | stopIdle | stopWaits
  | stopOver | waitsEnd | givesUp | drops | happens => simp [reports] at h

/-- A moment that takes the end of the run answers what the end means to its
call: a start that saw the end, or a stop. -/
theorem of_collects (move : Move kind m.before m.label m.after m.answer) (h : m.Collects) :
    ∃ how, m.before.ended kind = some how ∧
      ((m.StartSaw kind ∧ ∃ seen, m.answer = some (.error (startError seen how))) ∨
        (m.Stops ∧ m.answer = some (stopAnswer how))) := by
  obtain ⟨c, label, d, answer⟩ := m
  obtain ⟨hbefore, hafter⟩ := h
  have same : d.collected = c.collected → False := fun heq => by simp_all
  dsimp only at move hbefore hafter ⊢
  cases move with
  | @exited _ seen s how looks call service ended =>
    have hend : c.ended kind = some how := by simp [Coordinator.ended, service, ended]
    exact ⟨how, hend, .inl ⟨⟨⟨seen, call⟩, looks, by simp [hend]⟩, seen, rfl⟩⟩
  | @stopEnds s how call service ended =>
    have hend : c.ended kind = some how := by simp [Coordinator.ended, service, ended]
    exact ⟨how, hend, .inr ⟨⟨⟨.inr ⟨rfl, call⟩, rfl⟩, by simp [service]⟩, rfl⟩⟩
  | stopWaits | stopOver | drops => exact (same (by simp)).elim
  | startAgain | unbuilt | built | ready | waits | sees | timedOut | stopIdle | waitsEnd
  | givesUp | happens => exact (same rfl).elim

theorem collects_of_startSaw (phase : Phase kind m.before)
    (move : Move kind m.before m.label m.after m.answer) (h : m.StartSaw kind) :
    m.Collects := by
  obtain ⟨c, label, d, answer⟩ := m
  obtain ⟨⟨seen, call⟩, looks, hend⟩ := h
  dsimp only at phase move call looks hend
  refine ⟨(phase.of_start call).2.2.2.2, ?_⟩
  have goesOn : ∀ {s}, c.service = some s → kind.ended s = none → False := by
    intro s service goesOn
    simp [Coordinator.ended, service, goesOn] at hend
  cases move with
  | exited => rfl
  | ready _ _ service run | waits _ service run | sees _ service run
  | timedOut _ service run => exact (goesOn service run).elim
  | waitsEnd hcall | stopEnds hcall => simp [hcall] at call
  | startAgain | unbuilt | built | stopIdle | stopWaits | stopOver | givesUp | drops | happens =>
    simp [Label.Looks] at looks

theorem collected_of_stops (phase : Phase kind m.before)
    (move : Move kind m.before m.label m.after m.answer) (h : m.Stops) :
    m.after.collected = true := by
  obtain ⟨c, label, d, answer⟩ := m
  obtain ⟨⟨hcall, hanswer⟩, hservice⟩ := h
  dsimp only at phase move hcall hservice hanswer ⊢
  cases move with
  | exited | stopEnds => rfl
  | stopIdle _ unheld => simp [unheld] at hservice
  | @stopOver s rest service settled =>
    obtain ⟨-, -, collected, -⟩ := phase.of_settled rest.1 service settled
    simpa using collected
  | ready looks call => rcases looks with rfl | rfl <;> simp [call] at hcall
  | timedOut => simp at hcall
  | startAgain | unbuilt => simp at hcall
  | built | waits | sees | stopWaits | waitsEnd | givesUp | drops | happens => simp at hanswer

end Moment

/-! ## Over a history -/

/-- An end that is a failure means the same to a start as to a stop. -/
theorem startError_eq (seen : Option ServiceState) {how : RunEnd ε} (failed : how ≠ .returned) :
    (.error (startError seen how) : Answer ε) = stopAnswer how := by
  cases how with
  | returned => exact absurd rfl failed
  | failed | panicked => rfl

variable {timeoutMs : Nat} {past : List (Moment σ ι ε)} {c : Coordinator σ}

/-- The end of the run is taken at one moment or not at all. Only that moment
can report a failure, and a start that saw the end is that moment. -/
theorem History.collected_once (h : History kind timeoutMs past c) (hp : Patient past) :
    (c.collected = false → ∀ n ∈ past, ¬ n.Collects ∧ n.reports = false) ∧
    (c.collected = true → ∃ earlier m later, past = earlier ++ m :: later ∧ m.Collects ∧
      (∀ n ∈ earlier, n.after.collected = false) ∧
      ∀ n ∈ earlier ++ later, ¬ n.Collects ∧ n.reports = false) := by
  have hmoment := fun m (hm : m ∈ past) => h.moment hp hm
  obtain ⟨down, up⟩ := h.raised_once (·.collected) rfl
    fun m hm => Moment.collected_mono (hmoment m hm).2
  have quiet : ∀ n ∈ past, ¬ n.Collects → ¬ n.Collects ∧ n.reports = false := by
    intro n hn hnot
    refine ⟨hnot, ?_⟩
    rw [← Bool.not_eq_true]
    exact fun hr => hnot (Moment.collects_of_reports (hmoment n hn).1 (hmoment n hn).2 hr)
  constructor
  · intro hc n hn
    refine quiet n hn fun hcollects => ?_
    exact absurd hcollects.2 (by simp [down hc n hn])
  · intro hc
    obtain ⟨earlier, m, later, rfl, hbefore, hafter, hearlier, hlater⟩ := up hc
    refine ⟨earlier, m, later, rfl, ⟨hbefore, hafter⟩, hearlier, ?_⟩
    intro n hn
    -- Before the moment nobody has taken the end, and after it there is none to take.
    rcases List.mem_append.mp hn with hn | hn
    · refine quiet n (List.mem_append_left _ hn) fun hcollects => ?_
      exact absurd hcollects.2 (by simp [hearlier n hn])
    · refine quiet n (List.mem_append_right _ (List.mem_cons_of_mem m hn)) fun hcollects => ?_
      exact absurd hcollects.1 (by simp [hlater n hn])

/-- In a patient history at most one call reports that the run failed. If it did
and a stop of it ran to its end, then exactly one call reports the failure: the
start if it saw the end, and else the first such stop. -/
theorem failure_reported_once (h : History kind timeoutMs past c) (hp : Patient past) :
    (past.filter Moment.reports).length ≤ 1 ∧
    ∀ how, c.ended kind = some how → how ≠ .returned → (∃ m ∈ past, m.Stops) →
      ∃ earlier m later, past = earlier ++ m :: later ∧
        m.answer = some (stopAnswer how) ∧ (∀ n ∈ earlier ++ later, n.reports = false) ∧
        ((∃ n ∈ past, n.StartSaw kind) → m.StartSaw kind) ∧
        ((∀ n ∈ past, ¬ n.StartSaw kind) → m.Stops ∧ ∀ n ∈ earlier, ¬ n.Stops) := by
  have hmoment := fun m (hm : m ∈ past) => h.moment hp hm
  obtain ⟨down, up⟩ := h.collected_once hp
  constructor
  · cases hc : c.collected with
    | false =>
      have hnil : past.filter Moment.reports = [] :=
        List.filter_eq_nil_iff.mpr fun n hn => by simp [(down hc n hn).2]
      simp [hnil]
    | true =>
      obtain ⟨earlier, m, later, rfl, -, -, hquiet⟩ := up hc
      rw [List.forall_mem_append] at hquiet
      have hearlier : earlier.filter Moment.reports = [] :=
        List.filter_eq_nil_iff.mpr fun n hn => by simp [(hquiet.1 n hn).2]
      have hlater : later.filter Moment.reports = [] :=
        List.filter_eq_nil_iff.mpr fun n hn => by simp [(hquiet.2 n hn).2]
      rw [List.filter_append, List.filter_cons, hearlier, hlater]
      split <;> simp
  · rintro how hend failed ⟨stop, hstop, hstops⟩
    have hstopped := Moment.collected_of_stops (hmoment stop hstop).1 (hmoment stop hstop).2 hstops
    have hc : c.collected = true := h.persists (P := (·.collected = true))
      (fun n hn => Moment.collected_mono (hmoment n hn).2) stop hstop hstopped
    obtain ⟨earlier, m, later, rfl, hcollects, hearlier, hquiet⟩ := up hc
    have hm : m ∈ earlier ++ m :: later := List.mem_append_right _ List.mem_cons_self
    obtain ⟨seenEnd, hseen, hanswer⟩ := Moment.of_collects (hmoment m hm).2 hcollects
    -- What was seen of the end is how the run ended.
    have hsame : seenEnd = how := by
      have hlast := h.persists (P := (·.ended kind = some seenEnd))
        (fun n hn => (hmoment n hn).1.ended (hmoment n hn).2) m hm
        ((hmoment m hm).1.ended (hmoment m hm).2 hseen)
      exact Option.some.inj (hlast.symm.trans hend)
    subst hsame
    refine ⟨earlier, m, later, rfl, ?_, fun n hn => (hquiet n hn).2, ?_, ?_⟩
    · rcases hanswer with ⟨_, seen, hanswer⟩ | ⟨_, hanswer⟩
      · rw [hanswer, startError_eq seen failed]
      · exact hanswer
    · rintro ⟨n, hn, hsaw⟩
      have hn' := Moment.collects_of_startSaw (hmoment n hn).1 (hmoment n hn).2 hsaw
      rcases List.mem_append.mp hn with hn | hn
      · exact absurd hn' (hquiet n (List.mem_append_left _ hn)).1
      · rcases List.mem_cons.mp hn with rfl | hn
        · exact hsaw
        · exact absurd hn' (hquiet n (List.mem_append_right _ hn)).1
    · intro hnone
      have hstop := (hanswer.resolve_left fun h => hnone m hm h.1).1
      refine ⟨hstop, fun n hn hstops => ?_⟩
      have hn' := hmoment n (List.mem_append_left _ hn)
      exact absurd (Moment.collected_of_stops hn'.1 hn'.2 hstops) (by simp [hearlier n hn])

/-- A service that fails after it was ready, while a first stop is given up. -/
def lateFailure : List (Label (AnyService String) (AnyService.Event String) String) :=
  [.start (.ok {}), .service (.publish .running), .look, .stop, .look, .giveUp,
    .service (.finish (.failed "late")), .stop, .look, .stop]

theorem failure_reported_once_late :
    ∃ past c, take (AnyService.kind String) lateFailure { timeoutMs := 1000 } = some (past, c) ∧
      Patient past ∧ c.ended (AnyService.kind String) = some (.failed "late") ∧
      (∃ m ∈ past, m.Stops) ∧ (past.filter Moment.reports).length ≤ 1 ∧
      ∃ earlier m later, past = earlier ++ m :: later ∧
        m.answer = some (.error (.run "late")) ∧
        (∀ n ∈ earlier ++ later, n.reports = false) ∧ m.Stops ∧ ∀ n ∈ earlier, ¬ n.Stops := by
  obtain ⟨past, c, htake, hp, hend, hstops, hcalls⟩ : ∃ past c,
      take (AnyService.kind String) lateFailure { timeoutMs := 1000 } = some (past, c) ∧
      Patient past ∧ c.ended (AnyService.kind String) = some (.failed "late") ∧
      (∃ m ∈ past, m.Stops) ∧ ∀ n ∈ past, ∀ seen, n.before.call = .start seen →
        n.before.ended (AnyService.kind String) = none := by
    refine ⟨_, _, rfl, by simp [Patient], rfl, ?_, ?_⟩
    · exact ⟨_, List.mem_of_getElem? (i := 8) rfl, ⟨.inr ⟨rfl, rfl⟩, rfl⟩, rfl⟩
    · simpa using ⟨rfl, rfl⟩
  have hsaw : ∀ n ∈ past, ¬ n.StartSaw (AnyService.kind String) := by
    rintro n hn ⟨⟨seen, hcall⟩, -, hseen⟩
    simp [hcalls n hn seen hcall] at hseen
  obtain ⟨honce, hexactly⟩ := failure_reported_once (History.new.take htake) hp
  obtain ⟨earlier, m, later, hpast, hanswer, hquiet, -, hfirst⟩ := hexactly _ hend (by simp) hstops
  exact ⟨past, c, htake, hp, hend, hstops, honce, earlier, m, later, hpast, hanswer, hquiet,
    hfirst hsaw⟩

end TelemetrySidecar.Coordinator

import TelemetrySidecar.Proofs.Service.Abandoned

/-
  How long a failure shows

  A coordinator shows that its service has failed for one of two reasons: it has
  recorded the failure, or it counts the service as running and sees that its
  run has ended. What is recorded is final. What is only seen is not: a stop that
  is called then goes by the record, treats the service as one that runs, and
  judges the run anew by how it ended.

  What is proved: a recorded failure stays (`Phase.failed_stays`). What becomes
  of one that was only seen is followed move by move (`Aftermath`,
  `Aftermath.move`): it shows until a stop is called, and again from the answer
  of a stop on unless the run ended well. So a failure that was shown is still
  shown, whatever happened since, unless it was taken back in this way
  (`failed_stays_iff`).
-/

namespace TelemetrySidecar.Coordinator

variable {σ ι ε : Type} {kind : ServiceKind σ ι ε} {c d : Coordinator σ}
  {label : Label σ ι ε} {answer : Option (Answer ε)}

/-- A failure shows if it is recorded, or if the service counts as running and
its run has ended. -/
theorem shown_eq_failed_iff : c.shown kind = .failed ↔
    c.state = .failed ∨
      (c.state = .running ∧ c.completion = .pending ∧ (c.ended kind).isSome) := by
  unfold shown
  split
  · rename_i seen
    simp only [Bool.and_eq_true, decide_eq_true_eq] at seen
    simp [seen]
  · rename_i unseen
    simp only [Bool.and_eq_true, decide_eq_true_eq, and_assoc] at unseen
    simp [unseen]

/-- What is recorded is shown, but for a service that counts as running. -/
theorem shown_eq_state (h : c.state ≠ .running) : c.shown kind = c.state := by
  simp [shown, h]

/-! ## Failures that are recorded -/

theorem Phase.failed_stays (h : Phase kind c) (m : Move kind c label d answer)
    (failed : c.state = .failed) : d.state = .failed := by
  cases m with
  | unbuilt | exited | timedOut => rfl
  | built _ fresh => simp [failed] at fresh
  | ready _ call => simp [(h.of_start call).1] at failed
  | stopWaits | stopOver =>
    simp only [asked]
    split
    · exact failed
    · simp [failed]
  | @stopEnds _ how => cases how <;> simp [stateAfter, failed]
  | drops => simpa using failed
  | startAgain | waits | sees | stopIdle | waitsEnd | givesUp | happens => exact failed

/-! ## Failures that are only seen -/

theorem Phase.of_running (h : Phase kind c) (running : c.state = .running) :
    c.call = .none ∧ c.latched = false := by
  cases h with
  | unheld _ _ state => rcases state with ⟨state, -⟩ | ⟨state, -⟩ <;> simp [state] at running
  | starting _ _ state => simp [state] at running
  | finished _ _ _ state => rcases state with state | ⟨state, -⟩ <;> simp [state] at running
  | held _ call state =>
    have unlatched : c.latched = false := by
      cases latched : c.latched with
      | false => rfl
      | true => simp [running, latched] at state
    exact ⟨call.resolve_right fun h => by simp [unlatched] at h, unlatched⟩

theorem Phase.of_stopping (h : Phase kind c) (stopping : c.state = .stopping) :
    c.latched = true := by
  cases h with
  | unheld _ _ state => rcases state with ⟨state, -⟩ | ⟨state, -⟩ <;> simp [state] at stopping
  | starting _ _ state => simp [state] at stopping
  | finished _ _ _ state => rcases state with state | ⟨state, -⟩ <;> simp [state] at stopping
  | held _ _ state =>
    cases latched : c.latched with
    | true => rfl
    | false => simp [stopping, latched] at state

/-- What a stop records of a run that ended unasked. -/
def verdict : RunEnd ε → LifecycleState
  | .returned => .stopped
  | .failed _ | .panicked => .failed

/-- What became of a service that ended unasked: nobody stopped it, a stop was
called and none has answered, or a stop has answered and recorded the end. -/
inductive Aftermath (how : RunEnd ε) (later : List (Moment σ ι ε)) (c : Coordinator σ) : Prop where
  | unstopped (state : c.state = .running) (completion : c.completion = .pending)
      (uncalled : ∀ n ∈ later, n.label ≠ .stop) (unanswered : ∀ n ∈ later, ¬ n.EndsStop)
  | reopened (state : c.state = .stopping) (completion : c.completion = .pending)
      (called : ∃ n ∈ later, n.label = .stop) (unanswered : ∀ n ∈ later, ¬ n.EndsStop)
  | judged (state : c.state = verdict how) (completion : c.completion = .done)
      (called : ∃ n ∈ later, n.label = .stop) (answered : ∃ n ∈ later, n.EndsStop)

/-- A moment answers in place of a stop only if a stop is called or waits. -/
theorem Moment.not_endsStop {m : Moment σ ι ε} (label : m.label ≠ .stop)
    (call : m.before.call ≠ .stop) : ¬ m.EndsStop :=
  fun h => h.call.elim label fun waits => call waits.2

theorem Moment.not_endsStop_of_unanswered {m : Moment σ ι ε} (h : m.answer = none) :
    ¬ m.EndsStop :=
  fun ends => by simpa [h] using ends.answered

namespace Aftermath

variable {how : RunEnd ε} {later : List (Moment σ ι ε)} {n : Moment σ ι ε}

theorem state_ne_starting (h : Aftermath how later c) : c.state ≠ .starting := by
  cases h with
  | unstopped state | reopened state => simp [state]
  | judged state => cases how <;> simp [state, verdict]

/-- While nobody stops it, a service that ended goes on as it is. -/
theorem of_unstopped (state : n.before.state = .running)
    (completion : n.before.completion = .pending) (uncalled : ∀ n ∈ later, n.label ≠ .stop) (unanswered : ∀ n ∈ later, ¬ n.EndsStop)
    (phase : Phase kind n.before) (ended : n.before.ended kind = some how)
    (move : Move kind n.before n.label n.after n.answer) :
    Aftermath how (later ++ [n]) n.after := by
  obtain ⟨call, latched⟩ := phase.of_running state
  obtain ⟨s, service, -⟩ := Option.bind_eq_some_iff.mp ended
  obtain ⟨c, label, d, answer⟩ := n
  dsimp only at state completion call latched service move ⊢
  have stays : ∀ {d answer}, label ≠ .stop → d.state = .running → d.completion = .pending →
      Aftermath how (later ++ [⟨c, label, d, answer⟩]) d := by
    intro d answer other state completion
    refine .unstopped state completion ?_ ?_ <;>
      rw [List.forall_mem_append, List.forall_mem_singleton]
    · exact ⟨uncalled, other⟩
    · exact ⟨unanswered, Moment.not_endsStop other (by simp [call])⟩
  cases move with
  | startAgain => exact stays (by simp) state completion
  | unbuilt _ fresh | built _ fresh => simp [state] at fresh
  | exited _ hcall | ready _ hcall | waits hcall | sees hcall | timedOut hcall | waitsEnd hcall
  | stopEnds hcall => simp [call] at hcall
  | stopIdle _ unheld => simp [service] at unheld
  | stopOver _ _ settled => exact absurd completion settled
  | stopWaits =>
    -- The stop goes by the record, which still says that the service runs.
    refine .reopened ?_ (by simpa using completion) ?_ ?_
    · simp [asked, latched, state]
    · exact ⟨_, List.mem_append_right _ List.mem_cons_self, rfl⟩
    · rw [List.forall_mem_append, List.forall_mem_singleton]
      exact ⟨unanswered, Moment.not_endsStop_of_unanswered rfl⟩
  | givesUp calls => exact absurd call calls
  | drops => exact stays (by simp) (by simpa using state) (by simpa using completion)
  | happens => exact stays (by simp) state completion

/-- The stop that ends first records how the run ended. -/
theorem of_reopened (state : n.before.state = .stopping)
    (completion : n.before.completion = .pending) (called : ∃ n ∈ later, n.label = .stop)
    (unanswered : ∀ n ∈ later, ¬ n.EndsStop)
    (phase : Phase kind n.before) (ended : n.before.ended kind = some how)
    (move : Move kind n.before n.label n.after n.answer) :
    Aftermath how (later ++ [n]) n.after := by
  have latched := phase.of_stopping state
  obtain ⟨s, service, endedSo⟩ := Option.bind_eq_some_iff.mp ended
  obtain ⟨stop, hstop, isStop⟩ := called
  obtain ⟨c, label, d, answer⟩ := n
  dsimp only at state completion latched service phase move ⊢
  have stays : ∀ {d answer}, ¬ Moment.EndsStop ⟨c, label, d, answer⟩ → d.state = .stopping →
      d.completion = .pending → Aftermath how (later ++ [⟨c, label, d, answer⟩]) d := by
    intro d answer unended state completion
    refine .reopened state completion ⟨stop, List.mem_append_left _ hstop, isStop⟩ ?_
    rw [List.forall_mem_append, List.forall_mem_singleton]
    exact ⟨unanswered, unended⟩
  cases move with
  | startAgain =>
    exact stays (fun ends => by simpa using ends.call) state completion
  | unbuilt _ fresh | built _ fresh => simp [state] at fresh
  | exited _ hcall | ready _ hcall | waits hcall | sees hcall | timedOut hcall =>
    simp [(phase.of_start hcall).1] at state
  | stopIdle _ unheld => simp [service] at unheld
  | stopOver _ _ settled => exact absurd completion settled
  | stopWaits =>
    exact stays (Moment.not_endsStop_of_unanswered rfl) (by simp [asked, latched, state])
      (by simpa using completion)
  | waitsEnd => exact stays (Moment.not_endsStop_of_unanswered rfl) state completion
  | stopEnds hcall hs hend =>
    rw [hs] at service
    cases service
    cases hend.symm.trans endedSo
    refine .judged ?_ rfl ⟨stop, List.mem_append_left _ hstop, isStop⟩
      ⟨_, List.mem_append_right _ List.mem_cons_self, .inr ⟨rfl, hcall⟩, rfl⟩
    cases how <;> simp [stateAfter, state, verdict]
  | givesUp | happens => exact stays (Moment.not_endsStop_of_unanswered rfl) state completion
  | drops =>
    exact stays (Moment.not_endsStop_of_unanswered rfl) (by simpa using state)
      (by simpa using completion)

/-- What a stop has recorded stays. -/
theorem of_judged (state : n.before.state = verdict how) (completion : n.before.completion = .done)
    (called : ∃ n ∈ later, n.label = .stop) (answered : ∃ n ∈ later, n.EndsStop)
    (phase : Phase kind n.before) (move : Move kind n.before n.label n.after n.answer) :
    Aftermath how (later ++ [n]) n.after := by
  have settled : n.before.completion ≠ .pending := by simp [completion]
  have before {P : Moment σ ι ε → Prop} : (∃ n ∈ later, P n) → ∃ m ∈ later ++ [n], P m :=
    fun ⟨m, hm, holds⟩ => ⟨m, List.mem_append_left _ hm, holds⟩
  obtain ⟨state, completion⟩ :
      n.after.state = n.before.state ∧ n.after.completion = n.before.completion := by
    obtain ⟨c, label, d, answer⟩ := n
    dsimp only at state completion settled phase move ⊢
    cases move with
    | unbuilt _ fresh | built _ fresh => cases how <;> simp [state, verdict] at fresh
    | exited _ hcall | ready _ hcall | timedOut hcall =>
      simp [(phase.of_start hcall).2.1] at completion
    | stopEnds hcall => simp [(phase.of_stop hcall).2.1] at completion
    | stopWaits _ _ pending => exact absurd pending settled
    | stopOver rest service =>
      obtain ⟨-, -, -, state⟩ := phase.of_settled rest.1 service settled
      exact ⟨asked_state_over state, asked_completion ..⟩
    | drops => simp
    | startAgain | waits | sees | stopIdle | waitsEnd | givesUp | happens => exact ⟨rfl, rfl⟩
  exact .judged (by rwa [state]) (by rwa [completion]) (before called) (before answered)

theorem move (h : Aftermath how later n.before) (phase : Phase kind n.before)
    (ended : n.before.ended kind = some how) (move : Move kind n.before n.label n.after n.answer) :
    Aftermath how (later ++ [n]) n.after := by
  cases h with
  | unstopped state completion uncalled unanswered =>
    exact of_unstopped state completion uncalled unanswered phase ended move
  | reopened state completion called unanswered =>
    exact of_reopened state completion called unanswered phase ended move
  | judged state completion called answered =>
    exact of_judged state completion called answered phase move

end Aftermath

/-! ## Over a history -/

variable {timeoutMs : Nat} {past earlier later : List (Moment σ ι ε)} {m : Moment σ ι ε}

namespace History

theorem phase_of_state (h : History kind timeoutMs past c) (state : c.state ≠ .starting) :
    Phase kind c :=
  h.phase_or_abandoned.resolve_right fun abandoned => state abandoned.state

/-- A failure that was recorded stays so. -/
theorem failed_stays (h : History kind timeoutMs (earlier ++ m :: later) c)
    (failed : m.after.state = .failed) : c.state = .failed := by
  refine h.since (P := fun _ c => c.state = .failed) failed ?_
  intro later n before step failed
  exact (before.phase_of_state (by simp [failed])).failed_stays (move_of_step step) failed

/-- What became of a service whose end was seen while it counted as running. -/
theorem aftermath (h : History kind timeoutMs (earlier ++ m :: later) c) {how : RunEnd ε}
    (running : m.after.state = .running) (pending : m.after.completion = .pending)
    (ended : m.after.ended kind = some how) :
    c.ended kind = some how ∧ Aftermath how later c := by
  refine h.since (P := fun later c => c.ended kind = some how ∧ Aftermath how later c) ?_ ?_
  · exact ⟨ended, .unstopped running pending (by simp) (by simp)⟩
  · rintro later n before step ⟨ended, aftermath⟩
    have phase := before.phase_of_state aftermath.state_ne_starting
    have move := move_of_step step
    exact ⟨phase.ended move ended, aftermath.move phase ended move⟩

end History

/-- A failure that was seen and not recorded is taken back: a stop was called
since, and if one has answered then the run had ended well. -/
structure TakenBack (kind : ServiceKind σ ι ε) (m : Moment σ ι ε) (later : List (Moment σ ι ε)) :
    Prop where
  unrecorded : m.after.state = .running
  called : ∃ n ∈ later, n.label = .stop
  undecided : (∃ n ∈ later, n.EndsStop) → m.after.ended kind = some .returned

/-- Once a failure has been shown it is shown for ever, unless it is taken back.
Then the service shows as stopping, and as stopped once a stop has answered. -/
theorem failed_stays_iff (h : History kind timeoutMs (earlier ++ m :: later) c)
    (failed : m.after.shown kind = .failed) :
    (c.shown kind = .failed ↔ ¬ TakenBack kind m later) ∧
    (TakenBack kind m later →
      ((∀ n ∈ later, ¬ n.EndsStop) → c.shown kind = .stopping) ∧
      ((∃ n ∈ later, n.EndsStop) → c.shown kind = .stopped)) := by
  rcases shown_eq_failed_iff.mp failed with recorded | ⟨running, pending, seen⟩
  · have stays := h.failed_stays recorded
    have kept : ¬ TakenBack kind m later := fun taken => by simpa [recorded] using taken.unrecorded
    exact ⟨iff_of_true (shown_eq_failed_iff.mpr (.inl stays)) kept, fun taken => absurd taken kept⟩
  · obtain ⟨how, ended⟩ := Option.isSome_iff_exists.mp seen
    obtain ⟨endedNow, aftermath⟩ := h.aftermath running pending ended
    -- What became of it since tells both what shows and whether it was taken back.
    cases aftermath with
    | unstopped state completion uncalled =>
      have kept : ¬ TakenBack kind m later :=
        fun taken => taken.called.elim fun n hn => uncalled n hn.1 hn.2
      refine ⟨iff_of_true (shown_eq_failed_iff.mpr (.inr ⟨state, completion, ?_⟩)) kept,
        fun taken => absurd taken kept⟩
      simp [endedNow]
    | reopened state completion called unanswered =>
      have shows : c.shown kind = .stopping := by rw [shown_eq_state (by simp [state]), state]
      have none : ¬ ∃ n ∈ later, n.EndsStop := fun ⟨n, hn, ends⟩ => unanswered n hn ends
      refine ⟨iff_of_false (by simp [shows]) (not_not_intro ⟨running, called, ?_⟩), fun _ => ?_⟩
      · exact fun answered => absurd answered none
      · exact ⟨fun _ => shows, fun answered => absurd answered none⟩
    | judged state completion called answered =>
      have shows : c.shown kind = verdict how := by
        rw [shown_eq_state (by cases how <;> simp [state, verdict]), state]
      have taken_iff : TakenBack kind m later ↔ how = .returned := by
        constructor
        · intro taken
          exact Option.some.inj (ended.symm.trans (taken.undecided answered))
        · rintro rfl
          exact ⟨running, called, fun _ => ended⟩
      rw [shows, taken_iff]
      refine ⟨by cases how <;> simp [verdict], ?_⟩
      rintro rfl
      exact ⟨fun unanswered => answered.elim fun n hn => absurd hn.2 (unanswered n hn.1),
        fun _ => rfl⟩

/-- A service ends unasked after it was ready, and is stopped twice. -/
def unaskedEnd (how : RunEnd String) :
    List (Label (AnyService String) (AnyService.Event String) String) :=
  [.start (.ok {}), .service (.publish .running), .look, .service (.finish how), .stop, .look,
    .stop]

/-- A run that ended well is shown as failed, and as stopped once it is stopped. -/
theorem unaskedEnd_taken_back :
    ∃ earlier m later c,
      take (AnyService.kind String) (unaskedEnd .returned) { timeoutMs := 1000 } =
        some (earlier ++ m :: later, c) ∧
      m.after.shown (AnyService.kind String) = .failed ∧
      c.shown (AnyService.kind String) = .stopped :=
  ⟨[_, _, _], _, [_, _, _], _, rfl, rfl, rfl⟩

theorem failed_stays_iff_unaskedEnd :
    ∃ earlier m later c,
      take (AnyService.kind String) (unaskedEnd (.failed "late")) { timeoutMs := 1000 } =
        some (earlier ++ m :: later, c) ∧
      m.after.shown (AnyService.kind String) = .failed ∧
      c.shown (AnyService.kind String) = .failed := by
  obtain ⟨earlier, m, later, c, htake, shown, ended, stop⟩ : ∃ earlier m later c,
      take (AnyService.kind String) (unaskedEnd (.failed "late")) { timeoutMs := 1000 } =
        some (earlier ++ m :: later, c) ∧
      m.after.shown (AnyService.kind String) = .failed ∧
      m.after.ended (AnyService.kind String) = some (.failed "late") ∧
      ∃ n ∈ later, n.EndsStop :=
    ⟨[_, _, _], _, [_, _, _], _, rfl, rfl, rfl,
      _, List.mem_of_getElem? (i := 1) rfl, .inr ⟨rfl, rfl⟩, rfl⟩
  have h : History (AnyService.kind String) 1000 (earlier ++ m :: later) c := History.new.take htake
  refine ⟨earlier, m, later, c, htake, shown, (failed_stays_iff h shown).1.mpr fun taken => ?_⟩
  simpa [ended] using taken.undecided stop

end TelemetrySidecar.Coordinator

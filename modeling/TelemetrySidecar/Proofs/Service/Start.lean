import TelemetrySidecar.Proofs.Service.Shutdown

/-
  What a start answers

  A start that had its service built wakes up again and again and looks at it:
  whether the run has ended, which counts before anything else, and which state
  was published last. The last time it does so is when its time runs out. Between
  two looks the service may publish any states and its run may end in any way, so
  of what happened only the last state is seen. A terminal state that is seen
  while the run goes on is remembered: from then on only the end of the run counts.

  What is proved: a start in progress remembers the first terminal state that one
  of its looks saw, and it is the first start of all, which has not answered yet
  (`History.seen`). Therefore what it answers is settled by what its looks have
  seen (`start_answers_iff`): it answers at the first look that decides
  (`Decides`), and that it ran out of time exactly if its time runs out and no look
  has decided.
-/

namespace TelemetrySidecar.Coordinator

variable {σ ι ε : Type} {kind : ServiceKind σ ι ε} {timeoutMs : Nat}

/-- The state the service published last, once it is built. -/
def published? (kind : ServiceKind σ ι ε) (c : Coordinator σ) : Option ServiceState :=
  c.service.map kind.published

namespace Moment

/-- The start in progress answers. -/
def StartAnswers (m : Moment σ ι ε) (answer : Answer ε) : Prop :=
  (∃ seen, m.before.call = .start seen) ∧ m.answer = some answer

/-- The start in progress wakes up and looks at the service, perhaps for the last
time. -/
structure WakesStart (m : Moment σ ι ε) : Prop where
  call : ∃ seen, m.before.call = .start seen
  looks : m.label.Looks

/-- A look of the start finds that the run goes on, and a state. -/
structure Sees (kind : ServiceKind σ ι ε) (m : Moment σ ι ε) (state : ServiceState) : Prop
    extends m.WakesStart where
  goesOn : m.before.ended kind = none
  published : m.before.published? kind = some state

/-- A look of the start finds that the run has ended. -/
structure SeesEnd (kind : ServiceKind σ ι ε) (m : Moment σ ι ε) (how : RunEnd ε) : Prop
    extends m.WakesStart where
  ended : m.before.ended kind = some how

/-- What is seen in a moment is one state. -/
theorem Sees.unique {m : Moment σ ι ε} {s t : ServiceState} (h : m.Sees kind s)
    (h' : m.Sees kind t) : s = t :=
  Option.some.inj (h.published.symm.trans h'.published)

end Moment

/-- No look has seen a terminal state. -/
def Unspoilt (kind : ServiceKind σ ι ε) (past : List (Moment σ ι ε)) : Prop :=
  ∀ m ∈ past, ∀ state, m.Sees kind state → state.isTerminal = false

/-- The first terminal state that a look has seen. -/
def FirstTerminal (kind : ServiceKind σ ι ε) (past : List (Moment σ ι ε)) (state : ServiceState) :
    Prop :=
  ∃ earlier m later, past = earlier ++ m :: later ∧ m.Sees kind state ∧
    state.isTerminal = true ∧ Unspoilt kind earlier

/-- What a look decides, by what it sees and what the looks before it saw. -/
inductive Decides (kind : ServiceKind σ ι ε) (earlier : List (Moment σ ι ε)) (m : Moment σ ι ε) :
    Answer ε → Prop where
  | ready (sees : m.Sees kind .running) (unspoilt : Unspoilt kind earlier) :
      Decides kind earlier m (.ok ())
  | failed {error : ε} (sees : m.SeesEnd kind (.failed error)) :
      Decides kind earlier m (.error (.run error))
  | panicked (sees : m.SeesEnd kind .panicked) : Decides kind earlier m (.error .panicked)
  | unexpected {state : ServiceState} (sees : m.SeesEnd kind .returned)
      (first : FirstTerminal kind earlier state) :
      Decides kind earlier m (.error (.unexpectedState state))
  | early (sees : m.SeesEnd kind .returned) (unspoilt : Unspoilt kind earlier) :
      Decides kind earlier m (.error .exitedEarly)

/-! ## What was seen -/

section

variable {past : List (Moment σ ι ε)} {m : Moment σ ι ε} {s t : ServiceState}
  {seen : Option ServiceState}

theorem unspoilt_append : Unspoilt kind (past ++ [m]) ↔
    Unspoilt kind past ∧ ∀ state, m.Sees kind state → state.isTerminal = false := by
  unfold Unspoilt
  rw [List.forall_mem_append, List.forall_mem_singleton]

theorem not_unspoilt_of_firstTerminal (h : FirstTerminal kind past s) : ¬ Unspoilt kind past := by
  obtain ⟨earlier, m, later, rfl, sees, terminal, -⟩ := h
  intro unspoilt
  have := unspoilt m (List.mem_append_right _ List.mem_cons_self) s sees
  simp [terminal] at this

theorem FirstTerminal.append (h : FirstTerminal kind past s) (later : List (Moment σ ι ε)) :
    FirstTerminal kind (past ++ later) s := by
  obtain ⟨earlier, m, between, rfl, sees, terminal, unspoilt⟩ := h
  exact ⟨earlier, m, between ++ later, by simp, sees, terminal, unspoilt⟩

/-- Two places in a list are one, or one comes before the other. -/
theorem same_or_before {α : Type} {as bs cs ds : List α} {a b : α}
    (h : as ++ a :: bs = cs ++ b :: ds) : a = b ∨ a ∈ cs ∨ b ∈ as := by
  rcases List.append_eq_append_iff.mp h with ⟨between, rfl, hrest⟩ | ⟨between, rfl, hrest⟩
  · cases between with
    | nil => exact .inl (List.cons.inj hrest).1
    | cons x between => exact .inr (.inl (by simp [(List.cons.inj hrest).1]))
  · cases between with
    | nil => exact .inl (List.cons.inj hrest).1.symm
    | cons x between => exact .inr (.inr (by simp [(List.cons.inj hrest).1]))

theorem FirstTerminal.unique (h : FirstTerminal kind past s) (h' : FirstTerminal kind past t) :
    s = t := by
  obtain ⟨earlier, m, later, rfl, sees, terminal, unspoilt⟩ := h
  obtain ⟨earlier', m', later', hpast, sees', terminal', unspoilt'⟩ := h'
  rcases same_or_before hpast with rfl | hm | hm
  · exact sees.unique sees'
  · have := unspoilt' m hm s sees
    simp [terminal] at this
  · have := unspoilt m' hm t sees'
    simp [terminal'] at this

/-- What the looks of a start have seen is what it remembers. -/
def Remembers (kind : ServiceKind σ ι ε) (past : List (Moment σ ι ε)) :
    Option ServiceState → Prop
  | none => Unspoilt kind past
  | some state => FirstTerminal kind past state

theorem Remembers.append_of_blind (h : Remembers kind past seen)
    (blind : ∀ state, m.Sees kind state → state.isTerminal = false) :
    Remembers kind (past ++ [m]) seen := by
  cases seen with
  | none => exact unspoilt_append.mpr ⟨h, blind⟩
  | some state => exact FirstTerminal.append h [m]

end

/-! ## The start in progress -/

section

variable {c d : Coordinator σ} {label : Label σ ι ε} {answer : Option (Answer ε)}

/-- A start in progress waits for a service that is there. -/
def Awaits (c : Coordinator σ) : Prop :=
  ∀ seen, c.call = .start seen → c.state = .starting ∧ c.service.isSome = true

theorem Move.awaits (m : Move kind c label d answer) (h : c.Awaits) : d.Awaits := by
  intro seen call
  cases m with
  | built => exact ⟨rfl, rfl⟩
  | sees hcall service => exact ⟨(h _ hcall).1, by simp [service]⟩
  | happens service => exact ⟨(h seen call).1, rfl⟩
  | startAgain | waits | stopIdle | waitsEnd => exact h seen call
  | unbuilt rest | drops rest | stopOver rest => simp [rest.1] at call
  | exited | ready | timedOut | stopWaits | stopEnds | givesUp => simp at call

/-- Once a start was called and is not in progress, none will be. -/
theorem Move.over (m : Move kind c label d answer)
    (h : c.state ≠ .notStarted ∧ ∀ seen, c.call ≠ .start seen) :
    d.state ≠ .notStarted ∧ ∀ seen, d.call ≠ .start seen := by
  refine ⟨m.begun h.1, ?_⟩
  intro seen call
  cases m with
  | built _ fresh => exact h.1 fresh
  | sees hcall => exact h.2 _ hcall
  | startAgain | waits | stopIdle | waitsEnd | happens => exact h.2 seen call
  | unbuilt rest | drops rest | stopOver rest => simp [rest.1] at call
  | exited | ready | timedOut | stopWaits | stopEnds | givesUp => simp at call

/-- A call of a start makes a beginning. -/
theorem Move.begun_of_start {built : Except ε σ} (m : Move kind c (.start built) d answer) :
    d.state ≠ .notStarted := by
  cases m with
  | startAgain _ begun => exact begun
  | unbuilt | built => simp
  | exited looks | ready looks => rcases looks with h | h <;> cases h

end

/-- The first start of all had its service built and nothing answered since. -/
def FirstStart (past : List (Moment σ ι ε)) : Prop :=
  ∃ prior call during s, past = prior ++ call :: during ∧ call.label = .start (.ok s) ∧
    (∀ n ∈ prior, ∀ built, n.label ≠ .start built) ∧ ∀ n ∈ during, n.answer = none

theorem FirstStart.append {past : List (Moment σ ι ε)} {m : Moment σ ι ε} (h : FirstStart past)
    (unanswered : m.answer = none) : FirstStart (past ++ [m]) := by
  obtain ⟨prior, call, during, s, rfl, hcall, hprior, hduring⟩ := h
  refine ⟨prior, call, during ++ [m], s, by simp, hcall, hprior, ?_⟩
  rw [List.forall_mem_append, List.forall_mem_singleton]
  exact ⟨hduring, unanswered⟩

namespace History

variable {past : List (Moment σ ι ε)} {c : Coordinator σ}

theorem move_of_mem (h : History kind timeoutMs past c) {m : Moment σ ι ε} (hm : m ∈ past) :
    Move kind m.before m.label m.after m.answer := by
  obtain ⟨_, _, _, _, step⟩ := h.split hm
  exact move_of_step step

theorem awaits (h : History kind timeoutMs past c) : c.Awaits := by
  induction h with
  | new => intro seen call; cases call
  | next _ step ih => exact (move_of_step step).awaits ih

/-- Before the first start nothing is started and nothing looks. -/
theorem quiet_of_fresh (h : History kind timeoutMs past c) (fresh : c.state = .notStarted) :
    ∀ m ∈ past, (∀ built, m.label ≠ .start built) ∧ ¬ m.WakesStart := by
  intro m hm
  have move := h.move_of_mem hm
  have hafter : ¬ m.after.state ≠ .notStarted := by
    intro begun
    exact h.persists (P := (·.state ≠ .notStarted)) (fun n hn => (h.move_of_mem hn).begun)
      m hm begun fresh
  constructor
  · intro built hlabel
    rw [hlabel] at move
    exact hafter move.begun_of_start
  · rintro ⟨⟨seen, call⟩, -⟩
    obtain ⟨_, _, _, before, _⟩ := h.split hm
    have begun : m.before.state ≠ .notStarted := by simp [(before.awaits seen call).1]
    exact hafter (move.begun begun)

/-- A start in progress remembers what its looks saw, and it is the first one. -/
theorem seen (h : History kind timeoutMs past c) :
    ∀ {seen : Option ServiceState}, c.call = .start seen →
      Remembers kind past seen ∧ FirstStart past := by
  induction h with
  | new => intro seen call; cases call
  | @next past c d label answer before step ih =>
    intro seen call
    have move := move_of_step step
    -- What is no look sees nothing.
    have blind : ¬ label.Looks → ∀ state, Moment.Sees kind ⟨c, label, d, answer⟩ state →
        state.isTerminal = false := by
      intro hno state sees
      exact absurd sees.looks hno
    cases move with
    | @built s rest fresh =>
      have quiet := before.quiet_of_fresh fresh
      have unspoilt : Remembers kind past none := by
        intro n hn state sees
        exact absurd sees.toWakesStart (quiet n hn).2
      cases call
      refine ⟨unspoilt.append_of_blind (blind (by simp [Label.Looks])), ?_⟩
      exact ⟨past, _, [], s, rfl, rfl, fun n hn => (quiet n hn).1, by simp⟩
    | @sees s hcall service goesOn terminal =>
      obtain ⟨unspoilt, first⟩ := ih hcall
      cases call
      have looks : Moment.Sees kind ⟨c, .look, { c with call := .start (some (kind.published s)) },
          none⟩ (kind.published s) :=
        ⟨⟨⟨none, hcall⟩, .inl rfl⟩, by simp [ended, service, goesOn], by simp [published?, service]⟩
      exact ⟨⟨past, _, [], rfl, looks, terminal, unspoilt⟩, first.append rfl⟩
    | @waits seen' s hcall service goesOn undecided =>
      obtain ⟨remembers, first⟩ := ih call
      refine ⟨?_, first.append rfl⟩
      cases seen with
      | some state => exact FirstTerminal.append remembers _
      | none =>
        cases hcall.symm.trans call
        refine remembers.append_of_blind ?_
        intro state sees
        have starting : kind.published s = .starting := by simpa using undecided
        have hstate : some (kind.published s) = some state := by
          simpa [published?, service] using sees.published
        rw [starting] at hstate
        cases hstate
        rfl
    | happens =>
      obtain ⟨remembers, first⟩ := ih call
      exact ⟨remembers.append_of_blind (blind (by simp [Label.Looks])), first.append rfl⟩
    | waitsEnd hcall => cases hcall.symm.trans call
    | startAgain rest | unbuilt rest | stopIdle rest | stopOver rest | drops rest =>
      simp [rest.1] at call
    | exited | ready | timedOut | stopWaits | stopEnds | givesUp => cases call

theorem timeoutMs_eq (h : History kind timeoutMs past c) : c.timeoutMs = timeoutMs := by
  induction h with
  | new => rfl
  | next _ step ih =>
    rw [← ih]
    cases move_of_step step with
    | stopWaits | stopOver =>
      unfold asked
      split <;> rfl
    | drops =>
      obtain ⟨_, _, hdrop⟩ := drop_eq kind _
      rw [hdrop]
    | startAgain | unbuilt | built | exited | ready | waits | sees | timedOut | stopIdle
    | waitsEnd | stopEnds | givesUp | happens => rfl

end History

/-! ## What a look answers -/

section

variable {c d : Coordinator σ} {label : Label σ ι ε} {answer : Option (Answer ε)}
  {seen : Option ServiceState}

/-- Only a look ends a start in progress. -/
theorem Move.looks_of_answer (m : Move kind c label d answer) (call : c.call = .start seen)
    (answered : answer.isSome) : label.Looks := by
  cases m with
  | exited looks | ready looks => exact looks
  | timedOut => exact .inr rfl
  | startAgain rest | unbuilt rest | stopIdle rest | stopOver rest => simp [rest.1] at call
  | stopEnds hcall => cases hcall.symm.trans call
  | built | waits | sees | stopWaits | waitsEnd | givesUp | drops | happens => simp at answered

theorem Move.answer_of_ended (m : Move kind c label d answer) (looks : label.Looks)
    (call : c.call = .start seen) {how : RunEnd ε} (hend : c.ended kind = some how) :
    answer = some (.error (startError seen how)) := by
  have ends : ∀ {s}, c.service = some s → kind.ended s = some how := by
    intro s service
    simpa [Coordinator.ended, service] using hend
  cases m with
  | exited _ hcall service ended =>
    cases hcall.symm.trans call
    cases ended.symm.trans (ends service)
    rfl
  | ready _ _ service goesOn | waits _ service goesOn | sees _ service goesOn
  | timedOut _ service goesOn => cases goesOn.symm.trans (ends service)
  | waitsEnd hcall | stopEnds hcall => cases hcall.symm.trans call
  | startAgain | unbuilt | built | stopIdle | stopWaits | stopOver | givesUp | drops | happens =>
    simp [Label.Looks] at looks

theorem Move.answer_of_running (m : Move kind c label d answer) (looks : label.Looks)
    (call : c.call = .start none) (goesOn : c.ended kind = none)
    (running : c.published? kind = some .running) : answer = some (.ok ()) := by
  have runs : ∀ {s}, c.service = some s → kind.ended s = none ∧ kind.published s = .running := by
    intro s service
    simpa [Coordinator.ended, published?, service] using And.intro goesOn running
  cases m with
  | exited _ _ service ended => simp [(runs service).1] at ended
  | ready => rfl
  | waits hcall service _ undecided =>
    cases hcall.symm.trans call
    simp [(runs service).2] at undecided
  | sees _ service _ terminal => simp [(runs service).2, ServiceState.isTerminal] at terminal
  | timedOut hcall service _ unready =>
    cases hcall.symm.trans call
    simp [(runs service).2] at unready
  | waitsEnd hcall | stopEnds hcall => cases hcall.symm.trans call
  | startAgain | unbuilt | built | stopIdle | stopWaits | stopOver | givesUp | drops | happens =>
    simp [Label.Looks] at looks

theorem Move.answer_of_unready (m : Move kind c label d answer) (looks : label.Looks)
    (call : c.call = .start seen) (goesOn : c.ended kind = none)
    (unready : seen.isSome ∨ c.published? kind ≠ some .running) :
    (label = .look ∧ answer = none) ∨
      (label = .expire ∧ answer = some (.error (.startTimeout c.timeoutMs))) := by
  cases m with
  | exited _ _ service ended => simp [Coordinator.ended, service, ended] at goesOn
  | ready _ hcall service _ running =>
    cases hcall.symm.trans call
    simp [published?, service, running] at unready
  | waits | sees => exact .inl ⟨rfl, rfl⟩
  | timedOut => exact .inr ⟨rfl, rfl⟩
  | waitsEnd hcall | stopEnds hcall => cases hcall.symm.trans call
  | startAgain | unbuilt | built | stopIdle | stopWaits | stopOver | givesUp | drops | happens =>
    simp [Label.Looks] at looks

end

/-! ## What a start answers -/

section

variable {earlier : List (Moment σ ι ε)} {m : Moment σ ι ε} {seen : Option ServiceState}

/-- A look that finds the run over decides, as what was seen before tells. -/
theorem decides_of_seesEnd {how : RunEnd ε} (remembers : Remembers kind earlier seen)
    (sees : m.SeesEnd kind how) : Decides kind earlier m (.error (startError seen how)) := by
  cases how with
  | returned =>
    cases seen with
    | none => exact .early sees remembers
    | some state => exact .unexpected sees remembers
  | failed e => exact .failed sees
  | panicked => exact .panicked sees

theorem Decides.call {answer : Answer ε} (h : Decides kind earlier m answer) :
    ∃ seen, m.before.call = .start seen := by
  cases h with
  | ready sees | failed sees | panicked sees | unexpected sees | early sees => exact sees.call

/-- What a look decides is what the start answers. -/
theorem answer_of_decides {answer : Answer ε} (remembers : Remembers kind earlier seen)
    (move : Move kind m.before m.label m.after m.answer) (call : m.before.call = .start seen)
    (decides : Decides kind earlier m answer) : m.answer = some answer := by
  have unremembered : Unspoilt kind earlier → seen = none := by
    intro unspoilt
    cases seen with
    | none => rfl
    | some state => exact absurd unspoilt (not_unspoilt_of_firstTerminal remembers)
  cases decides with
  | ready sees unspoilt =>
    rw [unremembered unspoilt] at call
    exact move.answer_of_running sees.looks call sees.goesOn sees.published
  | failed sees => exact move.answer_of_ended sees.looks call sees.ended
  | panicked sees => exact move.answer_of_ended sees.looks call sees.ended
  | @unexpected state sees first =>
    have hseen : seen = some state := by
      cases seen with
      | none => exact absurd remembers (not_unspoilt_of_firstTerminal first)
      | some t => rw [first.unique remembers]
    rw [hseen] at call
    exact move.answer_of_ended sees.looks call sees.ended
  | early sees unspoilt =>
    rw [unremembered unspoilt] at call
    exact move.answer_of_ended sees.looks call sees.ended

/-- A look that decides nothing makes a start answer only if its time runs out. -/
theorem answer_of_undecided (remembers : Remembers kind earlier seen)
    (move : Move kind m.before m.label m.after m.answer) (call : m.before.call = .start seen)
    (looks : m.label.Looks) (undecided : ∀ b, ¬ Decides kind earlier m b) :
    (m.label = .look ∧ m.answer = none) ∨
      (m.label = .expire ∧ m.answer = some (.error (.startTimeout m.before.timeoutMs))) := by
  have goesOn : m.before.ended kind = none := by
    cases hend : m.before.ended kind with
    | none => rfl
    | some how =>
      have decides := decides_of_seesEnd remembers ⟨⟨⟨seen, call⟩, looks⟩, hend⟩
      exact absurd decides (undecided _)
  have unready : seen.isSome ∨ m.before.published? kind ≠ some .running := by
    cases seen with
    | some state => exact .inl rfl
    | none =>
      refine .inr fun running => undecided (.ok ()) ?_
      exact .ready ⟨⟨⟨none, call⟩, looks⟩, goesOn, running⟩ remembers
  exact move.answer_of_unready looks call goesOn unready

end

/-- A start in progress can always be answered at the end of its time. -/
theorem exists_answer_of_expire {c : Coordinator σ} (awaits : c.Awaits)
    (h : ∃ seen, c.call = .start seen) :
    ∃ d answer, c.step kind .expire = some (d, some answer) := by
  obtain ⟨seen, call⟩ := h
  obtain ⟨s, service⟩ := Option.isSome_iff_exists.mp (awaits seen call).2
  have hlook : c.look kind = some (c.lookStarting kind seen s) := by simp [look, call, service]
  rcases hanswer : c.lookStarting kind seen s with ⟨d, _ | answer⟩
  · exact ⟨_, _, by simp [step, call, hlook, hanswer]; exact ⟨rfl, rfl⟩⟩
  · exact ⟨d, answer, by simp [step, call, hlook, hanswer]⟩

variable {past earlier later : List (Moment σ ι ε)} {m : Moment σ ι ε} {c : Coordinator σ}

/-- After the answer of a start none is in progress. -/
theorem History.over_of_startAnswers (h : History kind timeoutMs past c) (hm : m ∈ past)
    {answer : Answer ε} (answers : m.StartAnswers answer) :
    c.state ≠ .notStarted ∧ ∀ seen, c.call ≠ .start seen := by
  obtain ⟨⟨seen, call⟩, answered⟩ := answers
  have move := h.move_of_mem hm
  obtain ⟨_, _, _, before, _⟩ := h.split hm
  have begun : m.before.state ≠ .notStarted := by simp [(before.awaits seen call).1]
  have hafter : m.after.call = .none := by
    have looks := move.looks_of_answer call (by simp [answered])
    obtain ⟨b, label, d, a⟩ := m
    dsimp only at move call answered looks ⊢
    cases move with
    | exited | ready | timedOut | stopEnds => rfl
    | startAgain | unbuilt | stopIdle | stopOver => simp [Label.Looks] at looks
    | built | waits | sees | stopWaits | waitsEnd | givesUp | drops | happens => cases answered
  exact h.persists (P := fun c => c.state ≠ .notStarted ∧ ∀ seen, c.call ≠ .start seen)
    (fun n hn => (h.move_of_mem hn).over) m hm ⟨move.begun begun, by simp [hafter]⟩

/-- No look of a start in progress has decided yet. -/
theorem History.undecided (h : History kind timeoutMs past c) {seen : Option ServiceState}
    (call : c.call = .start seen) {before after : List (Moment σ ι ε)} {n : Moment σ ι ε}
    (hpast : past = before ++ n :: after) (b : Answer ε) : ¬ Decides kind before n b := by
  intro decides
  subst hpast
  have hn : n ∈ before ++ n :: after := List.mem_append_right _ List.mem_cons_self
  obtain ⟨seen', call'⟩ := decides.call
  have answered := answer_of_decides (h.cut.1.seen call').1 (h.move_of_mem hn) call' decides
  exact (h.over_of_startAnswers hn ⟨⟨seen', call'⟩, answered⟩).2 seen call

/-- Who answers without a decision has run out of time. -/
theorem History.late_of_undecided (h : History kind timeoutMs (earlier ++ m :: later) c)
    {answer : Answer ε} (answers : m.StartAnswers answer)
    (undecided : ¬ Decides kind earlier m answer) :
    answer = .error (.startTimeout timeoutMs) ∧ m.WakesStart ∧ m.label = .expire ∧
      ∀ before n after b, earlier ++ [m] = before ++ n :: after → ¬ Decides kind before n b := by
  obtain ⟨before, step⟩ := h.cut
  have move := move_of_step step
  obtain ⟨⟨seen, call⟩, answered⟩ := answers
  have remembers := (before.seen call).1
  have looks := move.looks_of_answer call (by simp [answered])
  have undecided : ∀ b, ¬ Decides kind earlier m b := by
    intro b decides
    have := answer_of_decides remembers move call decides
    rw [answered] at this
    cases this
    exact undecided decides
  rcases answer_of_undecided remembers move call looks undecided with
    ⟨-, hnone⟩ | ⟨hlabel, htimeout⟩
  · rw [answered] at hnone
    cases hnone
  · rw [answered, before.timeoutMs_eq] at htimeout
    refine ⟨Option.some.inj htimeout, ⟨⟨seen, call⟩, looks⟩, hlabel, ?_⟩
    intro early n late b hsplit
    -- The look that was last decided nothing, and those before it were answered by nothing.
    rcases List.eq_nil_or_concat late with rfl | ⟨late, last, rfl⟩
    · obtain ⟨rfl, rfl⟩ := List.append_singleton_inj.mp hsplit
      exact undecided b
    · rw [List.concat_eq_append, ← List.cons_append, ← List.append_assoc] at hsplit
      exact before.undecided call (List.append_singleton_inj.mp hsplit).1 b

theorem History.answers_of_decides (h : History kind timeoutMs (earlier ++ m :: later) c)
    {answer : Answer ε} (decides : Decides kind earlier m answer) : m.StartAnswers answer := by
  obtain ⟨before, step⟩ := h.cut
  obtain ⟨seen, call⟩ := decides.call
  exact ⟨⟨seen, call⟩, answer_of_decides (before.seen call).1 (move_of_step step) call decides⟩

theorem History.answers_of_late (h : History kind timeoutMs (earlier ++ m :: later) c)
    (wakes : m.WakesStart) (late : m.label = .expire)
    (undecided : ∀ b, ¬ Decides kind earlier m b) :
    m.StartAnswers (.error (.startTimeout timeoutMs)) := by
  obtain ⟨before, step⟩ := h.cut
  obtain ⟨⟨seen, call⟩, looks⟩ := wakes
  rcases answer_of_undecided (before.seen call).1 (move_of_step step) call looks undecided with
    ⟨hlook, -⟩ | ⟨-, htimeout⟩
  · rw [late] at hlook
    cases hlook
  · rw [before.timeoutMs_eq] at htimeout
    exact ⟨⟨seen, call⟩, htimeout⟩

/-- A start in progress is the first one, whose service was built. It answers in
a moment if and only if a look then decides so, or its time runs out then and no
look so far has decided. After its answer nothing looks any more, and while it
is in progress the end of its time makes it answer. -/
theorem start_answers_iff (h : History kind timeoutMs (earlier ++ m :: later) c) :
    (∀ answer, m.StartAnswers answer ↔
      Decides kind earlier m answer ∨
        (answer = .error (.startTimeout timeoutMs) ∧ m.WakesStart ∧ m.label = .expire ∧
          ∀ before n after b, earlier ++ [m] = before ++ n :: after →
            ¬ Decides kind before n b)) ∧
    ((∃ seen, m.before.call = .start seen) → FirstStart earlier) ∧
    (∀ answer, m.StartAnswers answer → ∀ n ∈ later, ¬ n.WakesStart) ∧
    ((∃ seen, c.call = .start seen) → ∃ d answer, c.step kind .expire = some (d, some answer)) := by
  refine ⟨?_, ?_, ?_, exists_answer_of_expire h.awaits⟩
  · intro answer
    constructor
    · intro answers
      by_cases decides : Decides kind earlier m answer
      · exact .inl decides
      · exact .inr (h.late_of_undecided answers decides)
    · rintro (decides | ⟨rfl, wakes, late, undecided⟩)
      · exact h.answers_of_decides decides
      · exact h.answers_of_late wakes late fun b => undecided earlier m [] b rfl
  · rintro ⟨seen, call⟩
    exact (h.cut.1.seen call).2
  · rintro answer answers n hn ⟨⟨seen, call⟩, -⟩
    obtain ⟨between, after, rfl⟩ := List.append_of_mem hn
    rw [← List.cons_append, ← List.append_assoc] at h
    have hm : m ∈ earlier ++ m :: between := List.mem_append_right _ List.mem_cons_self
    exact (h.cut.1.over_of_startAnswers hm answers).2 seen call

/-- A service that closes before it is ready, says that it runs when it is too
late, and returns. -/
def closedEarly : List (Label (AnyService String) (AnyService.Event String) String) :=
  [.stop, .start (.ok {}), .look, .service (.publish .closing), .look,
    .service (.publish .running), .look, .service (.finish .returned)]

theorem start_answers_iff_closedEarly :
    ∃ earlier m c, History (AnyService.kind String) 50 (earlier ++ m :: []) c ∧
      m.label = .expire ∧ FirstTerminal (AnyService.kind String) earlier .closing ∧
      m.StartAnswers (.error (.unexpectedState .closing)) := by
  obtain ⟨earlier, b, htake, hfirst, hcall, hend⟩ : ∃ earlier b,
      take (AnyService.kind String) closedEarly { timeoutMs := 50 } = some (earlier, b) ∧
      FirstTerminal (AnyService.kind String) earlier .closing ∧
      b.call = .start (some .closing) ∧
      b.ended (AnyService.kind String) = some .returned := by
    refine ⟨_, _, rfl, ⟨[_, _, _, _], _, _, rfl, ⟨⟨⟨none, rfl⟩, .inl rfl⟩, rfl, rfl⟩, rfl, ?_⟩,
      rfl, rfl⟩
    intro m hm state sees
    have hstate := sees.published
    simp only [List.mem_cons, List.not_mem_nil, or_false] at hm
    rcases hm with rfl | rfl | rfl | rfl
    · cases hstate
    · cases hstate
    · cases hstate; rfl
    · cases hstate; rfl
  have before := History.new.take htake
  obtain ⟨d, answer, step⟩ : ∃ d answer,
      b.step (AnyService.kind String) .expire = some (d, some answer) :=
    exists_answer_of_expire before.awaits ⟨_, hcall⟩
  have h := before.next step
  refine ⟨earlier, _, d, h, rfl, hfirst, ?_⟩
  refine ((start_answers_iff h).1 _).mpr (.inl (.unexpected ?_ hfirst))
  exact ⟨⟨⟨_, hcall⟩, .inr rfl⟩, hend⟩

end TelemetrySidecar.Coordinator

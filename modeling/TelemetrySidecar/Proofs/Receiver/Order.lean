import TelemetrySidecar.Proofs.Receiver.Port
import TelemetrySidecar.Proofs.Trace

/-
  The order of a receiver's states

  A receiver is shared by its run and by whoever asks for its shutdown. Both
  publish states. The run does so whatever was published before; a request looks
  at the published state first, and only later does it cancel the run, so the run
  may go on between its two halves (`Shared.step`). Any number of requests may be
  under way at once.

  What is proved: at each phase of the run only few lists of states can have
  been published (`Course`), every step of either side keeps it so
  (`Course.move`, `Course.closing`), and so the states come in one order
  (`published_in_order`). A run that is cancelled before its first step takes no
  port (`Forestalled`).
-/

namespace TelemetrySidecar.Receiver

/-- The first half of a request to shut down: a receiver that is ready is closing from now on. -/
def closing (r : Receiver) : Receiver :=
  { r with published := if r.published = .running then .closing else r.published }

/-- The second half: the run is told. -/
def cancel (r : Receiver) : Receiver := { r with cancelled := true }

/-- A receiver with those who ask for its shutdown. -/
structure Shared where
  receiver : Receiver
  /-- How many requests have looked at the published state and have yet to cancel the run. -/
  asking : Nat := 0

/-- What can happen next: a step of the run, or one half of a request. -/
inductive Act where
  | run (event : Event)
  | ask
  | cancel

namespace Shared

/-- A receiver that was just built. -/
def new (settings : ReceiverSettings) (hosted : Bool) : Shared := ⟨{ settings, hosted }, 0⟩

def step (s : Shared) : Act → Option Shared
  | .run event => (s.receiver.step event).map ({ s with receiver := · })
  | .ask => some ⟨s.receiver.closing, s.asking + 1⟩
  | .cancel =>
    match s.asking with
    | 0 => none
    | asking + 1 => some ⟨s.receiver.cancel, asking⟩

end Shared

/-- A request that nothing comes between is a shutdown. -/
theorem follow_ask_cancel (s : Shared) :
    ∃ past, follow Shared.step [.ask, .cancel] s = some (past, ⟨s.receiver.shutDown, s.asking⟩) :=
  ⟨_, rfl⟩

/-- The state that is published between two states of a receiver, if it is a new one. -/
def news? (r s : Receiver) : Option ServiceState :=
  if s.published = r.published then none else some s.published

/-- The state that a step publishes, if it is a new one. -/
def shown? (m : Transition Shared Act) : Option ServiceState :=
  m.before.receiver.news? m.after.receiver

/-- All states that were published, each when it was new. -/
def states (past : List (Transition Shared Act)) : List ServiceState :=
  .starting :: past.filterMap shown?

/-- A state after which no other is published. -/
def IsLast (state : ServiceState) : Prop := state = .closed ∨ state = .failed

/-- What a receiver has published by the time its run is in some phase. -/
def Course (states : List ServiceState) (r : Receiver) : Prop :=
  match r.phase with
  | .toCheck | .toBind | .toRecord _ | .toAnnounce =>
    r.published = .starting ∧ states = [.starting]
  | .serving =>
    (r.published = .running ∧ states = [.starting, .running]) ∨
      (r.published = .closing ∧ states = [.starting, .running, .closing])
  | .toReturn _ | .returned _ =>
    IsLast r.published ∧ states.Sublist [.starting, .running, .closing, r.published]

section

variable {r s : Receiver} {event : Event} {known : List ServiceState}

theorem news?_of_eq (h : s.published = r.published) : r.news? s = none := by
  rw [news?, if_pos h]

theorem news?_of_ne (h : s.published ≠ r.published) : r.news? s = some s.published := by
  rw [news?, if_neg h]

theorem of_news? {state : ServiceState} (h : r.news? s = some state) :
    s.published = state ∧ s.published ≠ r.published := by
  obtain ⟨hne, hstate⟩ := Option.ite_none_left_eq_some.mp h
  exact ⟨Option.some.inj hstate, hne⟩

theorem closing_of_ne (h : r.published ≠ .running) : r.closing = r := by
  rw [closing, if_neg h]

/-- Where nothing new is published the list of what is known stays. -/
theorem quiet {P : List ServiceState → Receiver → Prop} (same : s.published = r.published)
    (h : P known s) : P (known ++ (r.news? s).toList) s := by
  rw [news?_of_eq same, Option.toList_none, List.append_nil]
  exact h

/-- A run that has left can only return. -/
theorem Move.of_left (m : Move r event s) {how : RunEnd ReceiverError}
    (left : r.phase = .toReturn how ∨ r.phase = .returned how) :
    event = .finish ∧ s = { r with phase := .returned how } := by
  cases m with
  | finishes phase =>
    obtain left | left := left
    · cases left.symm.trans phase
      exact ⟨rfl, rfl⟩
    · cases left.symm.trans phase
  | closesAtOnce phase | checks phase | binds phase | bindFails phase | records phase
  | announces phase | closes phase | fails phase =>
    obtain left | left := left
    · cases left.symm.trans phase
    · cases left.symm.trans phase

/-- The run never publishes that the receiver is closing. -/
theorem Move.news?_ne_closing (m : Move r event s) : r.news? s ≠ some .closing := by
  intro h
  obtain ⟨published, changed⟩ := of_news? h
  cases m with
  | checks | binds | records | finishes => exact changed rfl
  | closesAtOnce | bindFails | announces | closes | fails => cases published

/-! ## What each step keeps -/

namespace Course

theorem leave (h : known.Sublist [.starting, .running, .closing]) {last : ServiceState}
    (new : last ≠ r.published) (isLast : IsLast last) (how : RunEnd ReceiverError) :
    Course (known ++ (r.news? (r.leave last how)).toList) (r.leave last how) := by
  have hnews : r.news? (r.leave last how) = some last := news?_of_ne new
  rw [hnews]
  exact ⟨isLast, h.append (List.Sublist.refl [last])⟩

/-- The run keeps to the course. -/
theorem move (h : Course known r) (m : Move r event s) :
    Course (known ++ (r.news? s).toList) s := by
  unfold Course at h
  cases m with
  | closesAtOnce phase =>
    rw [phase] at h
    obtain ⟨published, rfl⟩ := h
    exact leave (by decide) (by simp [published]) (.inl rfl) _
  | bindFails phase =>
    rw [phase] at h
    obtain ⟨published, rfl⟩ := h
    exact leave (by decide) (by simp [published]) (.inr rfl) _
  | announces phase =>
    rw [phase] at h
    obtain ⟨published, rfl⟩ := h
    rw [news?_of_ne (by simp [published])]
    exact .inl ⟨rfl, rfl⟩
  | closes phase =>
    rw [phase] at h
    obtain ⟨published, rfl⟩ | ⟨published, rfl⟩ := h
    · exact leave (by decide) (by simp [published]) (.inl rfl) _
    · exact leave (by decide) (by simp [published]) (.inl rfl) _
  | fails phase =>
    rw [phase] at h
    obtain ⟨published, rfl⟩ | ⟨published, rfl⟩ := h
    · exact leave (by decide) (by simp [published]) (.inr rfl) _
    · exact leave (by decide) (by simp [published]) (.inr rfl) _
  | checks phase | binds phase | records phase | finishes phase =>
    rw [phase] at h
    exact quiet rfl h

/-- Who is running has published just that, and is serving. -/
theorem of_running (h : Course known r) (running : r.published = .running) :
    r.phase = .serving ∧ known = [.starting, .running] := by
  unfold Course at h
  cases phase : r.phase with
  | serving =>
    rw [phase, running] at h
    obtain ⟨-, hknown⟩ | ⟨hclosing, -⟩ := h
    · exact ⟨rfl, hknown⟩
    · cases hclosing
  | toCheck | toBind | toRecord | toAnnounce =>
    rw [phase, running] at h
    cases h.1
  | toReturn | returned =>
    rw [phase, running] at h
    obtain ⟨hclosed | hfailed, -⟩ := h
    · cases hclosed
    · cases hfailed

/-- So does a request: its first half. -/
theorem closing (h : Course known r) : Course (known ++ (r.news? r.closing).toList) r.closing := by
  by_cases running : r.published = .running
  · obtain ⟨phase, rfl⟩ := h.of_running running
    have published : r.closing.published = .closing := if_pos running
    have hnews : r.news? r.closing = some .closing := by
      rw [news?_of_ne (by simp [published, running]), published]
    have hphase : r.closing.phase = .serving := phase
    rw [hnews, Course, hphase]
    exact .inr ⟨published, rfl⟩
  · rw [closing_of_ne running]
    exact quiet rfl h

/-- A run that has published its last state has only to return. -/
theorem of_isLast (h : Course known r) (isLast : IsLast r.published) :
    ∃ how, r.phase = .toReturn how ∨ r.phase = .returned how := by
  unfold Course at h
  cases phase : r.phase with
  | toReturn how => exact ⟨how, .inl rfl⟩
  | returned how => exact ⟨how, .inr rfl⟩
  | toCheck | toBind | toRecord | toAnnounce =>
    rw [phase] at h
    rw [h.1] at isLast
    simp [IsLast] at isLast
  | serving =>
    rw [phase] at h
    obtain ⟨published, -⟩ | ⟨published, -⟩ := h
    · rw [published] at isLast
      simp [IsLast] at isLast
    · rw [published] at isLast
      simp [IsLast] at isLast

/-- After a last state the run only returns. -/
theorem move_of_isLast (h : Course known r) (isLast : IsLast r.published) (m : Move r event s) :
    event = .finish ∧ s.published = r.published := by
  obtain ⟨how, left⟩ := h.of_isLast isLast
  obtain ⟨rfl, rfl⟩ := m.of_left left
  exact ⟨rfl, rfl⟩

theorem ordered (h : Course known r) :
    known.Sublist [.starting, .running, .closing, .closed] ∨
      known.Sublist [.starting, .running, .closing, .failed] := by
  unfold Course at h
  cases phase : r.phase with
  | toCheck | toBind | toRecord | toAnnounce =>
    rw [phase] at h
    obtain ⟨-, rfl⟩ := h
    exact .inl (by decide)
  | serving =>
    rw [phase] at h
    obtain ⟨-, rfl⟩ | ⟨-, rfl⟩ := h
    · exact .inl (by decide)
    · exact .inl (by decide)
  | toReturn | returned =>
    rw [phase] at h
    obtain ⟨hclosed | hfailed, hsub⟩ := h
    · rw [hclosed] at hsub
      exact .inl hsub
    · rw [hfailed] at hsub
      exact .inr hsub

end Course

/-! ## A run that is cancelled before it began -/

/-- The run was cancelled before its first step: it has published nothing since, or it has
closed and returned. -/
def Forestalled (known : List ServiceState) (r : Receiver) : Prop :=
  r.cancelled = true ∧ r.port = none ∧
    ((r.phase = .toCheck ∧ r.published = .starting ∧ known = [.starting]) ∨
      ((r.phase = .toReturn .returned ∨ r.phase = .returned .returned) ∧
        r.published = .closed ∧ known = [.starting, .closed]))

namespace Forestalled

theorem move (h : Forestalled known r) (m : Move r event s) :
    Forestalled (known ++ (r.news? s).toList) s := by
  obtain ⟨cancelled, port, ⟨phase, published, rfl⟩ | ⟨left, published, rfl⟩⟩ := h
  · cases m with
    | closesAtOnce =>
      have hnews : r.news? (r.leave .closed .returned) = some .closed :=
        news?_of_ne (by simp [leave, published])
      rw [hnews]
      exact ⟨cancelled, port, .inr ⟨.inl rfl, rfl, rfl⟩⟩
    | checks _ wanted => cases cancelled.symm.trans wanted
    | binds h | bindFails h | records h | announces h | closes h | fails h | finishes h =>
      cases phase.symm.trans h
  · obtain ⟨-, rfl⟩ := m.of_left left
    exact quiet rfl ⟨cancelled, port, .inr ⟨.inr rfl, published, rfl⟩⟩

theorem closing (h : Forestalled known r) :
    Forestalled (known ++ (r.news? r.closing).toList) r.closing := by
  have unready : r.published ≠ .running := by
    obtain ⟨-, -, ⟨-, published, -⟩ | ⟨-, published, -⟩⟩ := h
    · simp [published]
    · simp [published]
  rw [closing_of_ne unready]
  exact quiet rfl h

/-- Of the run's steps only the check and the return are left, so it takes no port. -/
theorem not_bind (h : Forestalled known r) {outcome : Except BindFault Nat}
    (m : Move r (.bind outcome) s) : False := by
  obtain ⟨-, -, ⟨phase, -, -⟩ | ⟨left, -, -⟩⟩ := h
  · cases m with
    | binds h | bindFails h => cases phase.symm.trans h
  · obtain ⟨hfinish, -⟩ := m.of_left left
    cases hfinish

/-- The states are just the first one, and the next step is the last, or that step was taken. -/
theorem states_eq {s : Shared} (h : Forestalled known s.receiver) :
    (known = [.starting] ∧
        ∃ t, s.step (.run .check) = some t ∧ t.receiver.published = .closed) ∨
      known = [.starting, .closed] := by
  obtain ⟨cancelled, -, ⟨phase, -, hknown⟩ | ⟨-, -, hknown⟩⟩ := h
  · refine .inl ⟨hknown, ⟨s.receiver.leave .closed .returned, s.asking⟩, ?_, rfl⟩
    simp [Shared.step, step, phase, cancelled]
  · exact .inr hknown

end Forestalled

end

/-! ## All interleavings -/

/-- What both sides keep, told of the states that were published and the receiver. -/
structure Keeps (P : List ServiceState → Receiver → Prop) : Prop where
  run : ∀ {known : List ServiceState} {r s : Receiver} {event : Event}, P known r →
    Move r event s → P (known ++ (r.news? s).toList) s
  ask : ∀ {known : List ServiceState} {r : Receiver}, P known r →
    P (known ++ (r.news? r.closing).toList) r.closing
  cancel : ∀ {known : List ServiceState} {r : Receiver}, P known r → P known r.cancel

theorem keeps_course : Keeps Course := ⟨Course.move, Course.closing, id⟩

/-- The state that was published last is the one that shows. -/
theorem keeps_latest : Keeps fun known r => known.getLast? = some r.published := by
  have step : ∀ {known : List ServiceState} {r : Receiver} (s : Receiver),
      known.getLast? = some r.published →
      (known ++ (r.news? s).toList).getLast? = some s.published := by
    intro known r s h
    by_cases same : s.published = r.published
    · rw [news?_of_eq same, Option.toList_none, List.append_nil, h, same]
    · rw [news?_of_ne same, Option.toList_some, List.getLast?_concat]
  exact ⟨fun h _ => step _ h, fun h => step _ h, id⟩

theorem keeps_forestalled : Keeps Forestalled :=
  ⟨Forestalled.move, Forestalled.closing, fun h => ⟨rfl, h.2⟩⟩

section

variable {first s t : Shared} {label : Act} {past : List (Transition Shared Act)}

/-- All that may follow for the receiver. -/
theorem Shared.receiver_of_step (taken : s.step label = some t) :
    (∃ event, label = .run event ∧ Move s.receiver event t.receiver) ∨
      (label = .ask ∧ t.receiver = s.receiver.closing) ∨
      (label = .cancel ∧ t.receiver = s.receiver.cancel) := by
  cases label with
  | run event =>
    obtain ⟨r, hr, rfl⟩ := Option.map_eq_some_iff.mp taken
    exact .inl ⟨event, rfl, move_of_step hr⟩
  | ask =>
    cases taken
    exact .inr (.inl ⟨rfl, rfl⟩)
  | cancel =>
    obtain ⟨r, asking⟩ := s
    cases asking with
    | zero => cases taken
    | succ asking =>
      cases taken
      exact .inr (.inr ⟨rfl, rfl⟩)

theorem Keeps.step {P : List ServiceState → Receiver → Prop} (keeps : Keeps P)
    {known : List ServiceState} (h : P known s.receiver) (taken : s.step label = some t) :
    P (known ++ (s.receiver.news? t.receiver).toList) t.receiver := by
  obtain ⟨event, -, m⟩ | ⟨-, asked⟩ | ⟨-, cancelled⟩ := Shared.receiver_of_step taken
  · exact keeps.run h m
  · rw [asked]
    exact keeps.ask h
  · rw [cancelled]
    exact quiet rfl (keeps.cancel h)

/-- What both sides keep holds whatever they do in turn. -/
theorem Keeps.trace {P : List ServiceState → Receiver → Prop} (keeps : Keeps P)
    {known : List ServiceState} (start : P known first.receiver)
    (h : Trace Shared.step first past s) : P (known ++ past.filterMap shown?) s.receiver := by
  induction h with
  | start => simpa using start
  | next before taken ih =>
    rw [filterMap_snoc, ← List.append_assoc]
    exact keeps.step ih taken

end

/-! ## The order -/

section

variable {settings : ReceiverSettings} {hosted : Bool} {first s t : Shared} {label : Act}
  {past : List (Transition Shared Act)}

theorem course_of_trace (h : Trace Shared.step (.new settings hosted) past s) :
    Course (states past) s.receiver := by
  have start : Course [.starting] (Shared.new settings hosted).receiver :=
    show _ ∧ _ from ⟨rfl, rfl⟩
  exact keeps_course.trace start h

theorem getLast?_states (h : Trace Shared.step (.new settings hosted) past s) :
    (states past).getLast? = some s.receiver.published := by
  have start : [ServiceState.starting].getLast? =
      some (Shared.new settings hosted).receiver.published := rfl
  exact keeps_latest.trace start h

/-- After a last state nothing is published, and the run only returns. -/
theorem news?_of_isLast {known : List ServiceState} (h : Course known s.receiver)
    (isLast : IsLast s.receiver.published) (taken : s.step label = some t) :
    s.receiver.news? t.receiver = none ∧ ∀ event, label = .run event → event = .finish := by
  obtain ⟨event, rfl, m⟩ | ⟨rfl, asked⟩ | ⟨rfl, cancelled⟩ := Shared.receiver_of_step taken
  · obtain ⟨rfl, same⟩ := h.move_of_isLast isLast m
    exact ⟨news?_of_eq same, by simp⟩
  · have unready : s.receiver.published ≠ .running := by
      intro running
      rw [running] at isLast
      simp [IsLast] at isLast
    rw [asked, closing_of_ne unready]
    exact ⟨news?_of_eq rfl, by simp⟩
  · rw [cancelled]
    exact ⟨news?_of_eq rfl, by simp⟩

/-- Only a request makes a receiver close, and only one that is running. -/
theorem running_of_news?_closing (taken : s.step label = some t)
    (h : s.receiver.news? t.receiver = some .closing) :
    s.receiver.published = .running ∧ label = .ask := by
  obtain ⟨event, rfl, m⟩ | ⟨rfl, asked⟩ | ⟨rfl, cancelled⟩ := Shared.receiver_of_step taken
  · exact absurd h m.news?_ne_closing
  · refine ⟨?_, rfl⟩
    apply Classical.byContradiction
    intro unready
    rw [asked, closing_of_ne unready, news?_of_eq rfl] at h
    cases h
  · obtain ⟨-, changed⟩ := of_news? h
    rw [cancelled] at changed
    exact absurd rfl changed

/-- A receiver whose run has not begun is as it was built, requests aside. -/
theorem toCheck_of_unbegun (h : Trace Shared.step (.new settings hosted) past s)
    (unbegun : ∀ n ∈ past, ∀ event, n.label ≠ .run event) :
    s.receiver.phase = .toCheck ∧ s.receiver.port = none := by
  induction h with
  | start => exact ⟨rfl, rfl⟩
  | next before taken ih =>
    rw [List.forall_mem_append] at unbegun
    have hlabel := unbegun.2 _ List.mem_cons_self
    obtain ⟨event, hrun, -⟩ | ⟨-, asked⟩ | ⟨-, cancelled⟩ := Shared.receiver_of_step taken
    · exact absurd hrun (hlabel event)
    · rw [asked]
      exact ih unbegun.1
    · rw [cancelled]
      exact ih unbegun.1

/-- A run that is cancelled before its first step is forestalled from then on. -/
theorem forestalled_of_cancel (h : Trace Shared.step (.new settings hosted) past s)
    (unbegun : ∀ n ∈ past, ∀ event, n.label ≠ .run event) (taken : s.step .cancel = some t) :
    s.receiver.news? t.receiver = none ∧ Forestalled (states past) t.receiver := by
  obtain ⟨phase, port⟩ := toCheck_of_unbegun h unbegun
  have course := course_of_trace h
  rw [Course, phase] at course
  obtain ⟨event, hrun, -⟩ | ⟨hask, -⟩ | ⟨-, cancelled⟩ := Shared.receiver_of_step taken
  · cases hrun
  · cases hask
  · rw [cancelled]
    exact ⟨news?_of_eq rfl, rfl, port, .inl ⟨phase, course⟩⟩

/-- A forestalled run takes no port, whatever is asked for. -/
theorem not_bind_of_forestalled {known : List ServiceState}
    (forestalled : Forestalled known first.receiver) (h : Trace Shared.step first past s) :
    ∀ n ∈ past, ∀ outcome, n.label ≠ .run (.bind outcome) := by
  intro n hn outcome hbind
  obtain ⟨earlier, later, -, before, taken⟩ := h.split hn
  have still := keeps_forestalled.trace forestalled before
  obtain ⟨event, hrun, m⟩ | ⟨hask, -⟩ | ⟨hcancel, -⟩ := Shared.receiver_of_step taken
  · cases hrun.symm.trans hbind
    exact still.not_bind m
  · cases hask.symm.trans hbind
  · cases hcancel.symm.trans hbind

/-- Where a run is cancelled before its first step no port is ever taken for it. -/
theorem forestalled_of_trace {earlier later : List (Transition Shared Act)}
    {m : Transition Shared Act}
    (h : Trace Shared.step (.new settings hosted) (earlier ++ m :: later) s)
    (cancels : m.label = .cancel) (unbegun : ∀ n ∈ earlier, ∀ event, n.label ≠ .run event) :
    (∀ n ∈ earlier ++ m :: later, ∀ outcome, n.label ≠ .run (.bind outcome)) ∧
      Forestalled (states (earlier ++ m :: later)) s.receiver := by
  obtain ⟨before, taken⟩ := h.cut
  rw [cancels] at taken
  obtain ⟨silent, forestalled⟩ := forestalled_of_cancel before unbegun taken
  have rest : Trace Shared.step m.after later s := h.resume
  constructor
  · intro n hn outcome hbind
    obtain hn | hn := List.mem_append.mp hn
    · exact unbegun n hn _ hbind
    · obtain rfl | hn := List.mem_cons.mp hn
      · cases cancels.symm.trans hbind
      · exact not_bind_of_forestalled forestalled rest n hn outcome hbind
  · have hstates : states (earlier ++ m :: later) = states earlier ++ later.filterMap shown? := by
      have hm : shown? m = none := silent
      simp [states, hm]
    rw [hstates]
    exact keeps_forestalled.trace forestalled rest

/-- A receiver publishes its states in one order, whenever its shutdown is asked for: starting,
running, closing and closed or failed, where it may leave out some. After the last one nothing
is published and its run only returns. That it closes is published by a request alone, and
of a receiver that is running. A run that is cancelled before its first step takes no port:
the step publishes that the receiver is closed. -/
theorem published_in_order {settings : ReceiverSettings} {hosted : Bool}
    {past : List (Transition Shared Act)} {s : Shared}
    (h : Trace Shared.step (.new settings hosted) past s) :
    ((states past).Sublist [.starting, .running, .closing, .closed] ∨
      (states past).Sublist [.starting, .running, .closing, .failed]) ∧
    (∀ m ∈ past, IsLast m.before.receiver.published →
      shown? m = none ∧ ∀ event, m.label = .run event → event = .finish) ∧
    (∀ m ∈ past, shown? m = some .closing →
      m.before.receiver.published = .running ∧ m.label = .ask) ∧
    (∀ earlier m later, past = earlier ++ m :: later → m.label = .cancel →
      (∀ n ∈ earlier, ∀ event, n.label ≠ .run event) →
      (∀ n ∈ past, ∀ outcome, n.label ≠ .run (.bind outcome)) ∧ s.receiver.port = none ∧
        ((states past = [.starting] ∧
            ∃ t, s.step (.run .check) = some t ∧ t.receiver.published = .closed) ∨
          states past = [.starting, .closed])) := by
  refine ⟨(course_of_trace h).ordered, ?_, ?_, ?_⟩
  · intro m hm isLast
    obtain ⟨earlier, later, -, before, taken⟩ := h.split hm
    exact news?_of_isLast (course_of_trace before) isLast taken
  · intro m hm shown
    obtain ⟨earlier, later, -, -, taken⟩ := h.split hm
    exact running_of_news?_closing taken shown
  · intro earlier m later hpast cancels unbegun
    subst hpast
    obtain ⟨unbound, forestalled⟩ := forestalled_of_trace h cancels unbegun
    exact ⟨unbound, forestalled.2.1, forestalled.states_eq⟩

/-- A receiver that serves until one of two requests is through, and one that is asked to shut
down before its run begins. -/
theorem published_in_order_asked :
    (∃ (past : List (Transition Shared Act)) (s : Shared),
      Trace Shared.step (.new {} false) past s ∧
      states past = [.starting, .running, .closing, .closed] ∧
      ∃ m ∈ past, shown? m = some .closing ∧ m.before.receiver.published = .running ∧
        m.label = .ask) ∧
    ∃ (past : List (Transition Shared Act)) (s : Shared),
      Trace Shared.step (.new {} false) past s ∧
      past.map (·.label) = [.ask, .cancel, .run .check, .run .finish] ∧
      (∀ n ∈ past, ∀ outcome, n.label ≠ .run (.bind outcome)) ∧
      states past = [.starting, .closed] := by
  constructor
  · obtain ⟨past, s, hfollow⟩ : ∃ past s, follow Shared.step
        [.ask, .run .check, .run (.bind (.ok 8080)), .run .record, .run .announce, .ask, .cancel,
          .run .close, .cancel, .run .finish] (.new {} false) = some (past, s) := ⟨_, _, rfl⟩
    have h : Trace Shared.step (.new {} false) past s := Trace.start.follow hfollow
    obtain ⟨-, -, hclosing, -⟩ := published_in_order h
    have hstates : states past = [.starting, .running, .closing, .closed] := by
      cases hfollow
      rfl
    have hshown : ∃ m ∈ past, shown? m = some .closing := by
      have hmem : ServiceState.closing ∈ past.filterMap shown? := by
        rw [(List.cons.inj hstates).2]
        decide
      exact List.mem_filterMap.mp hmem
    obtain ⟨m, hm, hshown⟩ := hshown
    exact ⟨past, s, h, hstates, m, hm, hshown, hclosing m hm hshown⟩
  · obtain ⟨first, second, rest, s, hfollow, hstates, hlabels⟩ : ∃ first second rest s,
        follow Shared.step [.ask, .cancel, .run .check, .run .finish] (.new {} false) =
          some (first :: second :: rest, s) ∧
        states (first :: second :: rest) = [.starting, .closed] ∧
        first.label = .ask ∧ second.label = .cancel := ⟨_, _, _, _, rfl, rfl, rfl, rfl⟩
    have h : Trace Shared.step (.new {} false) (first :: second :: rest) s :=
      Trace.start.follow hfollow
    obtain ⟨-, -, -, hforestalled⟩ := published_in_order h
    obtain ⟨hbind, -, -⟩ := hforestalled [first] second rest rfl hlabels.2 (by simp [hlabels.1])
    exact ⟨_, s, h, labels_of_follow hfollow, hbind, hstates⟩

end

end TelemetrySidecar.Receiver

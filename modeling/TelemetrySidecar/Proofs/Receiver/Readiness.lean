import TelemetrySidecar.Proofs.Receiver.Order

/-
  Readiness after a request to shut down

  A run looks once whether its shutdown was asked for, before it takes its port. What
  is asked for later it notices only when it serves.

  What is proved: a receiver may say that it is ready although a request to shut down
  is through, and exactly if the request was through between the look and the
  announcement (`mayAnnounce_cancelled_iff`). Before the look and from the announcement
  on no request is overtaken so (`Barred.step`).
-/

namespace TelemetrySidecar.Receiver

/-- The run has looked for a request and has yet to say that it is ready. -/
def Committed (r : Receiver) : Prop :=
  r.phase = .toBind ∨ (∃ port, r.phase = .toRecord port) ∨ r.phase = .toAnnounce

/-- What happens next may make the receiver say that it is ready. -/
def MayAnnounce (s : Shared) : Prop :=
  ∃ later t, Trace Shared.step s later t ∧ ∃ n ∈ later, shown? n = some .running

/-- A request is through, and the run will notice it or has said that it is ready before. -/
def Barred (r : Receiver) : Prop := r.cancelled = true ∧ ¬ Committed r

section

variable {settings : ReceiverSettings} {hosted : Bool} {first s t : Shared} {r q : Receiver}
  {event : Event} {label : Act} {past : List (Transition Shared Act)}

/-- The run says that it is ready in one step only. -/
theorem Move.toAnnounce_of_news? (m : Move r event q) (h : r.news? q = some .running) :
    r.phase = .toAnnounce := by
  obtain ⟨published, changed⟩ := of_news? h
  cases m with
  | announces phase => exact phase
  | checks | binds | records | finishes => exact absurd rfl changed
  | closesAtOnce | bindFails | closes | fails => cases published

theorem Barred.move (h : Barred r) (m : Move r event q) : Barred q := by
  obtain ⟨cancelled, uncommitted⟩ := h
  cases m with
  | closesAtOnce | bindFails | closes | fails | announces | finishes =>
    exact ⟨cancelled, by simp [Committed, leave]⟩
  | checks _ wanted => cases cancelled.symm.trans wanted
  | binds phase => exact absurd (.inl phase) uncommitted
  | records phase => exact absurd (.inr (.inl ⟨_, phase⟩)) uncommitted

/-- Nothing that is done to a barred receiver makes it say that it is ready. -/
theorem Barred.step (h : Barred s.receiver) (taken : s.step label = some t) :
    Barred t.receiver ∧ s.receiver.news? t.receiver ≠ some .running := by
  obtain ⟨event, -, m⟩ | ⟨-, asked⟩ | ⟨-, cancelled⟩ := Shared.receiver_of_step taken
  · exact ⟨h.move m, fun news => h.2 (.inr (.inr (m.toAnnounce_of_news? news)))⟩
  · rw [asked]
    refine ⟨h, fun news => ?_⟩
    obtain ⟨published, changed⟩ := of_news? news
    by_cases running : s.receiver.published = .running
    · exact changed (published.trans running.symm)
    · rw [closing_of_ne running] at changed
      exact changed rfl
  · rw [cancelled]
    exact ⟨⟨rfl, h.2⟩, by simp [news?_of_eq, Receiver.cancel]⟩

theorem Barred.trace (h : Barred first.receiver) (trace : Trace Shared.step first past s) :
    Barred s.receiver ∧ ∀ n ∈ past, shown? n ≠ some .running := by
  induction trace with
  | start => exact ⟨h, by simp⟩
  | next _ taken ih =>
    obtain ⟨barred, silent⟩ := ih.1.step taken
    exact ⟨barred, List.forall_mem_append.mpr ⟨ih.2, List.forall_mem_singleton.mpr silent⟩⟩

theorem MayAnnounce.before (taken : s.step label = some t) (h : MayAnnounce t) :
    MayAnnounce s := by
  obtain ⟨later, u, trace, n, hn, shown⟩ := h
  have once : Trace Shared.step s [⟨s, label, t⟩] t := Trace.start.next taken
  exact ⟨_, u, once.append trace, n, List.mem_append_right _ hn, shown⟩

theorem mayAnnounce_of_toAnnounce (phase : s.receiver.phase = .toAnnounce)
    (unready : s.receiver.published = .starting) : MayAnnounce s := by
  have taken : s.step (.run .announce) =
      some { s with receiver := { s.receiver with published := .running, phase := .serving } } := by
    simp [Shared.step, step, phase]
  exact ⟨_, _, Trace.start.next taken, _, List.mem_cons_self, news?_of_ne (by simp [unready])⟩

theorem mayAnnounce_of_toRecord {port : Nat} (phase : s.receiver.phase = .toRecord port)
    (unready : s.receiver.published = .starting) : MayAnnounce s := by
  have taken : s.step (.run .record) = some { s with receiver :=
      { s.receiver with port := some (s.receiver.port.getD port), phase := .toAnnounce } } := by
    simp [Shared.step, step, phase]
  exact .before taken (mayAnnounce_of_toAnnounce rfl unready)

/-- A committed run goes on to say that it is ready, if it is given a port. -/
theorem mayAnnounce_of_committed (committed : Committed s.receiver)
    (unready : s.receiver.published = .starting) : MayAnnounce s := by
  obtain phase | ⟨port, phase⟩ | phase := committed
  · have taken : s.step (.run (.bind (.ok 0))) =
        some { s with receiver := { s.receiver with phase := .toRecord 0 } } := by
      simp [Shared.step, step, phase]
    exact .before taken (mayAnnounce_of_toRecord rfl unready)
  · exact mayAnnounce_of_toRecord phase unready
  · exact mayAnnounce_of_toAnnounce phase unready

theorem Course.starting_of_committed {known : List ServiceState} (h : Course known r)
    (committed : Committed r) : r.published = .starting := by
  unfold Course at h
  obtain phase | ⟨port, phase⟩ | phase := committed
  · rw [phase] at h
    exact h.1
  · rw [phase] at h
    exact h.1
  · rw [phase] at h
    exact h.1

/-- After a request to shut down a receiver may still say that it is ready exactly if its run had
looked for a request and had not said so yet. -/
theorem mayAnnounce_cancelled_iff (h : Trace Shared.step (.new settings hosted) past s)
    (taken : s.step .cancel = some t) : MayAnnounce t ↔ Committed s.receiver := by
  obtain ⟨_, hrun, -⟩ | ⟨hask, -⟩ | ⟨-, cancelled⟩ := Shared.receiver_of_step taken
  · cases hrun
  · cases hask
  constructor
  · rintro ⟨later, u, trace, n, hn, shown⟩
    apply Classical.byContradiction
    intro uncommitted
    have barred : Barred t.receiver := by
      rw [cancelled]
      exact ⟨rfl, uncommitted⟩
    exact (barred.trace trace).2 n hn shown
  · intro committed
    have unready := (course_of_trace h).starting_of_committed committed
    exact mayAnnounce_of_committed (by rwa [cancelled]) (by rwa [cancelled])

/-- A request that comes before the port is taken is overtaken. -/
example : (follow Shared.step [.run .check, .ask, .cancel, .run (.bind (.ok 8080)), .run .record,
      .run .announce] (.new {} false)).map (fun p => (p.2.receiver.cancelled,
        p.2.receiver.published)) = some (true, .running) := rfl

end

end TelemetrySidecar.Receiver

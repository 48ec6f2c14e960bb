import TelemetrySidecar.Proofs.Receiver.Order

/-
  When a receiver can be reached

  Who reads that a receiver is running or closing may ask it for its port at once.
  Its run records the port before it says that it is ready, and no request comes
  between the two halves of that order.

  What is proved: the run and the requests leave a receiver anchored to the ports
  that the run was given (`anchored_of_trace`), only a run that serves shows one of
  those two states (`Course.serving_of_isUp`), and a recorded port stays
  (`port_of_trace`). So a receiver that is up has recorded the one port of its
  listener and keeps it (`recorded_of_isUp`).
-/

namespace TelemetrySidecar.Receiver

/-- The port that the system gives in a step. -/
def Act.bound? : Act → Option Nat
  | .run event => event.bound?
  | .ask | .cancel => none

/-- The ports that the run was given, in order. -/
def bindings (past : List (Transition Shared Act)) : List Nat :=
  past.filterMap fun m => m.label.bound?

/-- The states of a receiver whose listener is up. -/
def IsUp (state : ServiceState) : Prop := state = .running ∨ state = .closing

section

variable {settings : ReceiverSettings} {hosted : Bool} {s t : Shared} {r : Receiver}
  {past later : List (Transition Shared Act)} {port : Nat}

theorem bindings_append (m : Transition Shared Act) :
    bindings (past ++ [m]) = bindings past ++ m.label.bound?.toList :=
  filterMap_snoc ..

theorem Anchored.closing {ports : List Nat} (h : Anchored ports r) : Anchored ports r.closing := by
  refine h.of_unready rfl rfl ?_
  intro unready
  rwa [closing_of_ne unready]

theorem anchored_of_trace (h : Trace Shared.step (.new settings hosted) past s) :
    Anchored (bindings past) s.receiver := by
  induction h with
  | start => exact ⟨by simp [Shared.new], rfl, rfl⟩
  | next before taken ih =>
    rw [bindings_append]
    obtain ⟨event, rfl, m⟩ | ⟨rfl, asked⟩ | ⟨rfl, cancelled⟩ := Shared.receiver_of_step taken
    · exact ih.move m
    · rw [asked, Act.bound?, Option.toList_none, List.append_nil]
      exact ih.closing
    · rw [cancelled, Act.bound?, Option.toList_none, List.append_nil]
      exact ih

/-- A receiver is up only while its run serves. -/
theorem Course.serving_of_isUp {known : List ServiceState} (h : Course known r)
    (up : IsUp r.published) : r.phase = .serving := by
  unfold Course at h
  cases phase : r.phase with
  | serving => rfl
  | toCheck | toBind | toRecord | toAnnounce =>
    rw [phase] at h
    rw [h.1] at up
    simp [IsUp] at up
  | toReturn | returned =>
    rw [phase] at h
    obtain ⟨closed | failed, -⟩ := h
    · rw [closed] at up
      simp [IsUp] at up
    · rw [failed] at up
      simp [IsUp] at up

/-- A recorded port stays, whatever the run and the requests do. -/
theorem port_of_trace (h : Trace Shared.step s later t) (recorded : s.receiver.port = some port) :
    t.receiver.port = some port := by
  induction h with
  | start => exact recorded
  | next before taken ih =>
    obtain ⟨event, -, m⟩ | ⟨-, asked⟩ | ⟨-, cancelled⟩ := Shared.receiver_of_step taken
    · exact m.keeps_port ih
    · rw [asked]
      exact ih
    · rw [cancelled]
      exact ih

/-- A receiver that is up has recorded the port of its listener. From then on it has that port, and
no other one is taken. -/
theorem recorded_of_isUp (h : Trace Shared.step (.new settings hosted) past s)
    (up : IsUp s.receiver.published) :
    ∃ port, bindings past = [port] ∧ s.receiver.port = some port ∧
      ∀ later t, Trace Shared.step s later t →
        t.receiver.port = some port ∧ bindings (past ++ later) = [port] := by
  have anchored := anchored_of_trace h
  obtain ⟨port, recorded, taken⟩ :
      ∃ port, s.receiver.port = some port ∧ bindings past = [port] := by
    have phase := (course_of_trace h).serving_of_isUp up
    unfold Anchored at anchored
    rwa [phase] at anchored
  refine ⟨port, taken, recorded, ?_⟩
  intro later t rest
  have kept := port_of_trace rest recorded
  exact ⟨kept, (anchored_of_trace (h.append rest)).taken_eq kept⟩

end

end TelemetrySidecar.Receiver

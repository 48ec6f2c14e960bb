import TelemetrySidecar.Receiver.Service

/-
  The port of a receiver

  The run of a receiver takes a port, records it and only then says that it is
  ready. A request to shut down may come at any time and changes nothing of that.

  What is proved: the results of a step of a receiver are listed once
  (`move_of_step`). At most one port is ever taken, and the one that is recorded is
  that one (`Anchored.move`, `Anchored.shutDown`). So a receiver that says it is
  running has recorded the port that was taken for it (`Anchored.of_running`), and
  it keeps it (`Move.keeps_port`).
-/

namespace TelemetrySidecar.Receiver

/-- All that may follow on a state, with the event. -/
inductive Move (r : Receiver) : Event → Receiver → Prop where
  | closesAtOnce (phase : r.phase = .toCheck) (cancelled : r.cancelled = true) :
      Move r .check (r.leave .closed .returned)
  | checks (phase : r.phase = .toCheck) (wanted : r.cancelled = false) :
      Move r .check { r with phase := .toBind }
  | binds {port : Nat} (phase : r.phase = .toBind) :
      Move r (.bind (.ok port)) { r with phase := .toRecord port }
  | bindFails {fault : BindFault} (phase : r.phase = .toBind) :
      Move r (.bind (.error fault)) (r.leave .failed (.failed (.notBound r.wanted fault)))
  | records {port : Nat} (phase : r.phase = .toRecord port) :
      Move r .record { r with port := some (r.port.getD port), phase := .toAnnounce }
  | announces (phase : r.phase = .toAnnounce) :
      Move r .announce { r with published := .running, phase := .serving }
  | closes (phase : r.phase = .serving) (cancelled : r.cancelled = true) :
      Move r .close (r.leave .closed .returned)
  | fails (phase : r.phase = .serving) : Move r .fail (r.leave .failed (.failed .notServing))
  | finishes {how : RunEnd ReceiverError} (phase : r.phase = .toReturn how) :
      Move r .finish { r with phase := .returned how }

/-- The port that is taken in a step. -/
def Event.bound? : Event → Option Nat
  | .bind (.ok port) => some port
  | _ => none

/-- How a receiver stands to the ports that were taken for it. -/
def Anchored (ports : List Nat) (r : Receiver) : Prop :=
  match r.phase with
  | .toCheck | .toBind => r.published ≠ .running ∧ r.port = none ∧ ports = []
  | .toRecord port => r.published ≠ .running ∧ r.port = none ∧ ports = [port]
  | .toAnnounce => r.published ≠ .running ∧ ∃ port, r.port = some port ∧ ports = [port]
  | .serving => ∃ port, r.port = some port ∧ ports = [port]
  | .toReturn _ | .returned _ => r.published ≠ .running ∧ ports = r.port.toList

section

variable {ports : List Nat} {r s : Receiver} {event : Event} {port : Nat}

/-- Every result of a step is in the list. -/
theorem move_of_step (h : r.step event = some s) : Move r event s := by
  unfold step at h
  split at h
  · rename_i phase
    by_cases cancelled : r.cancelled = true
    · rw [if_pos cancelled] at h
      cases h
      exact .closesAtOnce phase cancelled
    · rw [if_neg cancelled] at h
      cases h
      exact .checks phase (by simpa using cancelled)
  · rename_i phase; cases h; exact .binds phase
  · rename_i phase; cases h; exact .bindFails phase
  · rename_i phase; cases h; exact .records phase
  · rename_i phase; cases h; exact .announces phase
  · rename_i phase
    obtain ⟨cancelled, h⟩ := Option.ite_none_right_eq_some.mp h
    cases h; exact .closes phase cancelled
  · rename_i phase; cases h; exact .fails phase
  · rename_i phase; cases h; exact .finishes phase
  · cases h

/-- A port that is recorded stays. -/
theorem Move.keeps_port (m : Move r event s) (recorded : r.port = some port) :
    s.port = some port := by
  cases m with
  | records => simp [recorded]
  | closesAtOnce | checks | binds | bindFails | announces | closes | fails | finishes =>
    exact recorded

/-- A run that serves only goes on by ceasing to. -/
theorem Move.leaves (m : Move r event s) (serving : r.isServing = true) :
    event = .close ∨ event = .fail := by
  have phase : r.phase = .serving := by simpa [isServing] using serving
  cases m with
  | closes => exact .inl rfl
  | fails => exact .inr rfl
  | closesAtOnce h | checks h | binds h | bindFails h | records h | announces h | finishes h =>
    cases h.symm.trans phase

namespace Anchored

theorem new {hosted : Bool} {c : Configuration} (h : ofConfiguration hosted c = .ok r) :
    Anchored [] r := by
  unfold ofConfiguration at h
  split at h
  · cases h
    exact ⟨by simp, rfl, rfl⟩
  · cases h

theorem move (h : Anchored ports r) (m : Move r event s) :
    Anchored (ports ++ event.bound?.toList) s := by
  unfold Anchored at h
  cases m with
  | closesAtOnce phase =>
    rw [phase] at h
    obtain ⟨-, recorded, taken⟩ := h
    exact ⟨by simp [leave], by simp [taken, recorded, leave, Event.bound?]⟩
  | checks phase =>
    rw [phase] at h
    obtain ⟨unready, recorded, taken⟩ := h
    exact ⟨unready, recorded, by simp [taken, Event.bound?]⟩
  | binds phase =>
    rw [phase] at h
    obtain ⟨unready, recorded, taken⟩ := h
    exact ⟨unready, recorded, by simp [taken, Event.bound?]⟩
  | bindFails phase =>
    rw [phase] at h
    obtain ⟨-, recorded, taken⟩ := h
    exact ⟨by simp [leave], by simp [taken, recorded, leave, Event.bound?]⟩
  | @records port phase =>
    rw [phase] at h
    obtain ⟨unready, recorded, taken⟩ := h
    exact ⟨unready, port, by simp [recorded], by simp [taken, Event.bound?]⟩
  | announces phase =>
    rw [phase] at h
    obtain ⟨-, port, recorded, taken⟩ := h
    exact ⟨port, recorded, by simp [taken, Event.bound?]⟩
  | closes phase =>
    rw [phase] at h
    obtain ⟨port, recorded, taken⟩ := h
    exact ⟨by simp [leave], by simp [taken, recorded, leave, Event.bound?]⟩
  | fails phase =>
    rw [phase] at h
    obtain ⟨port, recorded, taken⟩ := h
    exact ⟨by simp [leave], by simp [taken, recorded, leave, Event.bound?]⟩
  | finishes phase =>
    rw [phase] at h
    obtain ⟨unready, taken⟩ := h
    exact ⟨unready, by simp [taken, Event.bound?]⟩

/-- Whoever leaves the run alone and makes no receiver ready leaves it anchored. -/
theorem of_unready (h : Anchored ports r) (phase : s.phase = r.phase) (port : s.port = r.port)
    (unready : r.published ≠ .running → s.published ≠ .running) : Anchored ports s := by
  unfold Anchored at h ⊢
  rw [phase, port]
  cases hphase : r.phase with
  | serving => rwa [hphase] at h
  | toCheck | toBind | toRecord | toAnnounce | toReturn | returned =>
    rw [hphase] at h
    exact ⟨unready h.1, h.2⟩

theorem shutDown (h : Anchored ports r) : Anchored ports r.shutDown := by
  refine h.of_unready rfl rfl ?_
  intro was
  simp [Receiver.shutDown, was]

/-- A recorded port is the only one that was taken. -/
theorem taken_eq (h : Anchored ports r) (recorded : r.port = some port) : ports = [port] := by
  unfold Anchored at h
  cases phase : r.phase with
  | toCheck | toBind | toRecord =>
    rw [phase] at h
    cases recorded.symm.trans h.2.1
  | toAnnounce =>
    rw [phase] at h
    obtain ⟨-, p, was, taken⟩ := h
    rw [taken, Option.some.inj (was.symm.trans recorded)]
  | serving =>
    rw [phase] at h
    obtain ⟨p, was, taken⟩ := h
    rw [taken, Option.some.inj (was.symm.trans recorded)]
  | toReturn | returned =>
    rw [phase] at h
    rw [h.2, recorded]
    rfl

/-- Who says that it is running has recorded a port. -/
theorem of_running (h : Anchored ports r) (running : r.published = .running) :
    ∃ port, r.port = some port := by
  unfold Anchored at h
  cases phase : r.phase with
  | serving =>
    rw [phase] at h
    obtain ⟨port, recorded, -⟩ := h
    exact ⟨port, recorded⟩
  | toCheck | toBind | toRecord | toAnnounce | toReturn | returned =>
    rw [phase] at h
    exact absurd running h.1

end Anchored

end

end TelemetrySidecar.Receiver

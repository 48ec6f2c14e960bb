import TelemetrySidecar.Proofs.Service.Phase

/-
  Histories of a coordinator

  A history is what happened to a new coordinator so far, moment by moment: its
  calls, what they looked at and answered, and what happened in the service, in
  any order that the steps allow (`History`). It is patient if every start was
  run to its end; a stop may be given up at any time, and there may be a drop.

  What is proved: taking labels one after the other lengthens a history
  (`History.take`), and a history can be cut before any of its moments
  (`History.cut`). Whatever every step preserves holds from a moment on
  (`History.persists`), so a flag that no step takes back was raised at one
  moment or not at all (`History.raised_once`). What is said of the moments
  since another is proved moment by moment (`History.since`). In a patient
  history the coordinator is always in a phase (`History.phase`).
-/

namespace TelemetrySidecar.Coordinator

variable {σ ι ε : Type} {kind : ServiceKind σ ι ε} {timeoutMs : Nat}

/-- One step that was taken. -/
structure Moment (σ ι ε : Type) where
  before : Coordinator σ
  label : Label σ ι ε
  after : Coordinator σ
  answer : Option (Answer ε)

/-- A stop is run to its end, whether it had to wait or not. -/
structure Moment.EndsStop (m : Moment σ ι ε) : Prop where
  call : m.label = .stop ∨ (m.label = .look ∧ m.before.call = .stop)
  answered : m.answer.isSome

/-- The moments that led from a new coordinator to a state, the first one first. -/
inductive History (kind : ServiceKind σ ι ε) (timeoutMs : Nat) :
    List (Moment σ ι ε) → Coordinator σ → Prop where
  | new : History kind timeoutMs [] { timeoutMs }
  | next {past : List (Moment σ ι ε)} {c d : Coordinator σ} {label : Label σ ι ε}
      {answer : Option (Answer ε)} (before : History kind timeoutMs past c)
      (step : c.step kind label = some (d, answer)) :
      History kind timeoutMs (past ++ [⟨c, label, d, answer⟩]) d

/-- What happens when labels are taken one after the other; nothing if one of
them is not possible. -/
def take (kind : ServiceKind σ ι ε) :
    List (Label σ ι ε) → Coordinator σ → Option (List (Moment σ ι ε) × Coordinator σ)
  | [], c => some ([], c)
  | label :: labels, c => do
    let (d, answer) ← c.step kind label
    let (later, e) ← take kind labels d
    return (⟨c, label, d, answer⟩ :: later, e)

/-- No start was given up. -/
def Patient (past : List (Moment σ ι ε)) : Prop :=
  ∀ m ∈ past, m.label = .giveUp → ∀ seen, m.before.call ≠ .start seen

variable {past : List (Moment σ ι ε)} {c : Coordinator σ}

theorem patient_append {later : List (Moment σ ι ε)} :
    Patient (past ++ later) ↔ Patient past ∧ Patient later := List.forall_mem_append

namespace History

theorem take (h : History kind timeoutMs past c) :
    ∀ {labels : List (Label σ ι ε)} {later : List (Moment σ ι ε)} {d : Coordinator σ},
    c.take kind labels = some (later, d) → History kind timeoutMs (past ++ later) d := by
  intro labels
  induction labels generalizing past c with
  | nil =>
    intro later d htake
    cases htake
    rwa [List.append_nil]
  | cons label labels ih =>
    intro later e htake
    obtain ⟨⟨d, answer⟩, step, htake⟩ := Option.bind_eq_some_iff.mp htake
    obtain ⟨⟨rest, e'⟩, hrest, htake⟩ := Option.bind_eq_some_iff.mp htake
    cases htake
    have := ih (h.next step) hrest
    rwa [List.append_assoc] at this

/-- In a patient history a coordinator is in a phase. -/
theorem phase (h : History kind timeoutMs past c) (hp : Patient past) : Phase kind c := by
  induction h with
  | new => exact phase_new timeoutMs
  | next _ step ih =>
    rw [patient_append] at hp
    exact (ih hp.1).move (move_of_step step) (hp.2 _ List.mem_cons_self)

/-- What came before a moment is a history, and the moment was a step after it. -/
theorem cut {earlier later : List (Moment σ ι ε)} {m : Moment σ ι ε} :
    History kind timeoutMs (earlier ++ m :: later) c →
    History kind timeoutMs earlier m.before ∧
      m.before.step kind m.label = some (m.after, m.answer) := by
  intro h
  generalize hpast : earlier ++ m :: later = past at h
  induction h generalizing later with
  | new => simp at hpast
  | @next past c d label answer before step ih =>
    rcases List.eq_nil_or_concat later with rfl | ⟨later, last, rfl⟩
    · obtain ⟨rfl, rfl⟩ := List.append_singleton_inj.mp hpast
      exact ⟨before, step⟩
    · rw [List.concat_eq_append, ← List.cons_append, ← List.append_assoc] at hpast
      exact ih (List.append_singleton_inj.mp hpast).1

/-- Each moment was a step, taken after the moments before it. -/
theorem split (h : History kind timeoutMs past c) {m : Moment σ ι ε} (hm : m ∈ past) :
    ∃ earlier later, past = earlier ++ m :: later ∧ History kind timeoutMs earlier m.before ∧
      m.before.step kind m.label = some (m.after, m.answer) := by
  obtain ⟨earlier, later, rfl⟩ := List.append_of_mem hm
  exact ⟨earlier, later, rfl, h.cut⟩

/-- A moment of a patient history begins in a phase and is a move. -/
theorem moment (h : History kind timeoutMs past c) (hp : Patient past) {m : Moment σ ι ε}
    (hm : m ∈ past) :
    Phase kind m.before ∧ Move kind m.before m.label m.after m.answer := by
  obtain ⟨earlier, later, rfl, before, step⟩ := h.split hm
  exact ⟨before.phase (patient_append.mp hp).1, move_of_step step⟩

/-- What each step of a history preserves holds from any moment on. -/
theorem persists {P : Coordinator σ → Prop} (h : History kind timeoutMs past c)
    (hmono : ∀ m ∈ past, P m.before → P m.after) :
    ∀ m ∈ past, P m.after → P c := by
  induction h with
  | new => intro m hm; cases hm
  | next before step ih =>
    rw [List.forall_mem_append] at hmono
    intro m hm hP
    rcases List.mem_append.mp hm with hm | hm
    · exact hmono.2 _ List.mem_cons_self (ih hmono.1 m hm hP)
    · cases List.mem_singleton.mp hm
      exact hP

/-- What each step preserves holds before every later moment. -/
theorem persists_before {P : Coordinator σ → Prop} {earlier later : List (Moment σ ι ε)}
    {m : Moment σ ι ε} (h : History kind timeoutMs (earlier ++ m :: later) c)
    (hmono : ∀ n ∈ earlier ++ m :: later, P n.before → P n.after) (hP : P m.after) :
    ∀ n ∈ later, P n.before := by
  intro n hn
  obtain ⟨between, rest, rfl⟩ := List.append_of_mem hn
  rw [← List.cons_append, ← List.append_assoc] at h hmono
  have hm : m ∈ earlier ++ m :: between := List.mem_append_right _ List.mem_cons_self
  exact h.cut.1.persists (fun l hl => hmono l (List.mem_append_left _ hl)) m hm hP

/-- What holds right after a moment, and is carried on by every later one, is
true of all that has happened since. -/
theorem since {P : List (Moment σ ι ε) → Coordinator σ → Prop} {earlier later : List (Moment σ ι ε)}
    {m : Moment σ ι ε} (first : P [] m.after)
    (next : ∀ later n, History kind timeoutMs (earlier ++ m :: later) n.before →
      n.before.step kind n.label = some (n.after, n.answer) → P later n.before →
      P (later ++ [n]) n.after) :
    History kind timeoutMs (earlier ++ m :: later) c → P later c := by
  intro h
  generalize hpast : earlier ++ m :: later = past at h
  induction h generalizing later with
  | new => simp at hpast
  | @next past c d label answer before step ih =>
    rcases List.eq_nil_or_concat later with rfl | ⟨later, last, rfl⟩
    · obtain ⟨rfl, rfl⟩ := List.append_singleton_inj.mp hpast
      exact first
    · rw [List.concat_eq_append, ← List.cons_append, ← List.append_assoc] at hpast
      obtain ⟨rfl, rfl⟩ := List.append_singleton_inj.mp hpast
      rw [List.concat_eq_append]
      exact next later _ before step (ih rfl)

/-- A flag that no step takes back was raised at one moment, if it is up, and at
none else. -/
theorem raised_once (h : History kind timeoutMs past c) (flag : Coordinator σ → Bool)
    (hnew : flag { timeoutMs } = false)
    (hmono : ∀ m ∈ past, flag m.before = true → flag m.after = true) :
    (flag c = false → ∀ m ∈ past, flag m.after = false) ∧
    (flag c = true → ∃ earlier m later, past = earlier ++ m :: later ∧
      flag m.before = false ∧ flag m.after = true ∧
      (∀ n ∈ earlier, flag n.after = false) ∧ ∀ n ∈ later, flag n.before = true) := by
  induction h with
  | new => simp [hnew]
  | @next past c d label answer before step ih =>
    rw [List.forall_mem_append] at hmono
    obtain ⟨down, up⟩ := ih hmono.1
    -- The last step raises the flag, or it was raised before and stays up.
    have hlast := hmono.2 _ List.mem_cons_self
    dsimp only at hlast
    cases hc : flag c with
    | false =>
      refine ⟨fun hd => ?_, fun hd => ⟨past, _, [], rfl, hc, hd, down hc, by simp⟩⟩
      rw [List.forall_mem_append]
      exact ⟨down hc, by simpa using hd⟩
    | true =>
      refine ⟨fun hd => by simp [hlast hc] at hd, fun _ => ?_⟩
      obtain ⟨earlier, m, later, rfl, hbefore, hafter, hearlier, hlater⟩ := up hc
      refine ⟨earlier, m, later ++ [_], List.append_assoc .., hbefore, hafter, hearlier, ?_⟩
      rw [List.forall_mem_append]
      exact ⟨hlater, by simpa using hc⟩

end History

end TelemetrySidecar.Coordinator

/-
  Traces of machines

  A machine is a step function that may refuse a label. What it did since its
  first state is a trace: the steps it took, each with the state before and the
  state after it (`Trace`).

  What is proved: labels that can be taken one after the other lengthen a trace
  (`Trace.follow`), and so does another trace (`Trace.append`). A trace can be cut
  at any of its steps (`Trace.cut`, `Trace.resume`, `Trace.split`). What each step preserves holds from any step on
  (`Trace.persists`), and what did not hold at first came about in some step
  (`Trace.exists_change`).
-/

namespace TelemetrySidecar

variable {S L : Type}

/-- One step that was taken. -/
structure Transition (S L : Type) where
  before : S
  label : L
  after : S

/-- The steps that led from a first state to another, the first one first. -/
inductive Trace (step : S → L → Option S) (first : S) : List (Transition S L) → S → Prop where
  | start : Trace step first [] first
  | next {past : List (Transition S L)} {s t : S} {label : L} (before : Trace step first past s)
      (taken : step s label = some t) : Trace step first (past ++ [⟨s, label, t⟩]) t

/-- What happens when labels are taken one after the other; nothing if one of
them is refused. -/
def follow (step : S → L → Option S) : List L → S → Option (List (Transition S L) × S)
  | [], s => some ([], s)
  | label :: labels, s => do
    let t ← step s label
    let (later, u) ← follow step labels t
    return (⟨s, label, t⟩ :: later, u)

theorem labels_of_follow {step : S → L → Option S} : ∀ {labels : List L} {s t : S}
    {later : List (Transition S L)}, follow step labels s = some (later, t) →
    later.map (·.label) = labels := by
  intro labels
  induction labels with
  | nil =>
    intro s t later hfollow
    cases hfollow
    rfl
  | cons label labels ih =>
    intro s u later hfollow
    obtain ⟨t, _, hfollow⟩ := Option.bind_eq_some_iff.mp hfollow
    obtain ⟨⟨rest, u'⟩, hrest, hfollow⟩ := Option.bind_eq_some_iff.mp hfollow
    cases hfollow
    exact congrArg (label :: ·) (ih hrest)

/-- What is noted of each step, after one more step. -/
theorem filterMap_snoc {α : Type} (f : Transition S L → Option α) (past : List (Transition S L))
    (m : Transition S L) : (past ++ [m]).filterMap f = past.filterMap f ++ (f m).toList := by
  rw [List.filterMap_append]
  cases h : f m with
  | none => simp [h]
  | some a => simp [h]

namespace Trace

variable {step : S → L → Option S} {first s : S} {past earlier later : List (Transition S L)}
  {m : Transition S L}

theorem follow (h : Trace step first past s) :
    ∀ {labels : List L} {later : List (Transition S L)} {t : S},
    TelemetrySidecar.follow step labels s = some (later, t) →
    Trace step first (past ++ later) t := by
  intro labels
  induction labels generalizing past s with
  | nil =>
    intro later t hfollow
    cases hfollow
    rwa [List.append_nil]
  | cons label labels ih =>
    intro later u hfollow
    obtain ⟨t, taken, hfollow⟩ := Option.bind_eq_some_iff.mp hfollow
    obtain ⟨⟨rest, u'⟩, hrest, hfollow⟩ := Option.bind_eq_some_iff.mp hfollow
    cases hfollow
    have := ih (h.next taken) hrest
    rwa [List.append_assoc] at this

/-- What came before a step is a trace, and the step was taken after it. -/
theorem cut : Trace step first (earlier ++ m :: later) s →
    Trace step first earlier m.before ∧ step m.before m.label = some m.after := by
  intro h
  generalize hpast : earlier ++ m :: later = past at h
  -- The step is the last one, or it is one of those before.
  induction h generalizing later with
  | start => simp at hpast
  | @next past s t label before taken ih =>
    rcases List.eq_nil_or_concat later with rfl | ⟨later, last, rfl⟩
    · obtain ⟨rfl, rfl⟩ := List.append_singleton_inj.mp hpast
      exact ⟨before, taken⟩
    · rw [List.concat_eq_append, ← List.cons_append, ← List.append_assoc] at hpast
      exact ih (List.append_singleton_inj.mp hpast).1

/-- What came after a step is a trace from the state it led to. -/
theorem resume : Trace step first (earlier ++ m :: later) s → Trace step m.after later s := by
  intro h
  generalize hpast : earlier ++ m :: later = past at h
  induction h generalizing later with
  | start => simp at hpast
  | @next past s t label before taken ih =>
    rcases List.eq_nil_or_concat later with rfl | ⟨later, last, rfl⟩
    · obtain ⟨rfl, rfl⟩ := List.append_singleton_inj.mp hpast
      exact .start
    · rw [List.concat_eq_append, ← List.cons_append, ← List.append_assoc] at hpast
      obtain ⟨hearlier, rfl⟩ := List.append_singleton_inj.mp hpast
      rw [List.concat_eq_append]
      exact (ih hearlier).next taken

/-- A trace goes on from where another one came to. -/
theorem append {t : S} (h : Trace step first past s) (rest : Trace step s later t) :
    Trace step first (past ++ later) t := by
  induction rest with
  | start => rwa [List.append_nil]
  | next _ taken ih =>
    rw [← List.append_assoc]
    exact ih.next taken

/-- Each step of a trace was taken after the steps before it. -/
theorem split (h : Trace step first past s) (hm : m ∈ past) :
    ∃ earlier later, past = earlier ++ m :: later ∧ Trace step first earlier m.before ∧
      step m.before m.label = some m.after := by
  obtain ⟨earlier, later, rfl⟩ := List.append_of_mem hm
  exact ⟨earlier, later, rfl, h.cut⟩

/-- What each step of a trace preserves holds from any step on. -/
theorem persists {P : S → Prop} (h : Trace step first past s)
    (keeps : ∀ m ∈ past, P m.before → P m.after) : ∀ m ∈ past, P m.after → P s := by
  induction h with
  | start => simp
  | next before taken ih =>
    rw [List.forall_mem_append] at keeps
    intro m hm holds
    rcases List.mem_append.mp hm with hm | hm
    · exact keeps.2 _ List.mem_cons_self (ih keeps.1 m hm holds)
    · cases List.mem_singleton.mp hm
      exact holds

/-- What holds now and did not at first came about in some step. -/
theorem exists_change {P : S → Prop} (h : Trace step first past s) (unheld : ¬ P first)
    (holds : P s) : ∃ m ∈ past, ¬ P m.before ∧ P m.after := by
  induction h with
  | start => exact absurd holds unheld
  | @next past s t label before taken ih =>
    by_cases already : P s
    · obtain ⟨m, hm, change⟩ := ih already
      exact ⟨m, List.mem_append_left _ hm, change⟩
    · exact ⟨_, List.mem_append_right _ List.mem_cons_self, already, holds⟩

end Trace

end TelemetrySidecar

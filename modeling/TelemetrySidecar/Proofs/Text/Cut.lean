import Mathlib.Data.List.DropRight
import TelemetrySidecar.Text.Cut

/-
  Where a text is cut

  A text is cut at the first place its separator stands (`cut_eq_some_iff`). If
  the separator is one character, what comes before the cut does not hold it
  (`cut_char_eq_some_iff`), and a text without it is not cut
  (`cut_char_eq_none_iff`). At its end a text loses all the copies of a character
  that stand there (`dropEnd_eq_iff`).
-/

namespace TelemetrySidecar.Text

/-! ## At any separator -/

section

variable {sep s a b : List Char}

/-- In a text made of `a`, the separator and `b` the separator stands nowhere
before the end of `a`. -/
def StandsFirst (sep a b : List Char) : Prop :=
  ∀ front back, a ++ sep ++ b = front ++ sep ++ back → a.length ≤ front.length

theorem StandsFirst.tail {c : Char} (h : StandsFirst sep (c :: a) b) : StandsFirst sep a b := by
  intro front back hsame
  have := h (c :: front) back (by simpa using hsame)
  simpa using this

/-- The separator also stands first after `c :: a` if it does not begin there. -/
theorem StandsFirst.cons {c : Char} (h : StandsFirst sep a b)
    (hlead : dropLead sep (c :: a ++ sep ++ b) = none) : StandsFirst sep (c :: a) b := by
  intro front back hsame
  cases front with
  | nil =>
    rw [hsame, List.nil_append, dropLead_eq_some.mpr rfl] at hlead
    cases hlead
  | cons d front =>
    have hrest : a ++ sep ++ b = front ++ sep ++ back := by simpa using (List.cons.inj hsame).2
    simpa using h front back hrest

theorem cut_eq_some_iff : cut sep s = some (a, b) ↔ s = a ++ sep ++ b ∧ StandsFirst sep a b := by
  induction s generalizing a with
  | nil =>
    simp only [cut, Option.map_eq_some_iff, Prod.mk.injEq, dropLead_eq_some]
    constructor
    · rintro ⟨rest, hempty, rfl, rfl⟩
      exact ⟨hempty, fun front back _ => Nat.zero_le _⟩
    · rintro ⟨hempty, -⟩
      obtain ⟨rfl, rfl, rfl⟩ : a = [] ∧ sep = [] ∧ b = [] := by simpa using hempty.symm
      exact ⟨[], rfl, rfl, rfl⟩
  | cons c s ih =>
    rw [cut]
    cases hlead : dropLead sep (c :: s) with
    | some rest =>
      rw [dropLead_eq_some] at hlead
      simp only [Option.some.injEq, Prod.mk.injEq]
      constructor
      · rintro ⟨rfl, rfl⟩
        exact ⟨hlead, fun front back _ => Nat.zero_le _⟩
      · rintro ⟨hsplit, hfirst⟩
        -- Nothing comes before a separator that stands at the very beginning.
        obtain rfl : a = [] := by simpa using hfirst [] rest (by simpa [← hsplit] using hlead)
        exact ⟨rfl, by simpa [hlead] using hsplit⟩
    | none =>
      simp only [Option.map_eq_some_iff, Prod.mk.injEq, Prod.exists]
      constructor
      · rintro ⟨front, back, hcut, rfl, rfl⟩
        obtain ⟨rfl, hfirst⟩ := ih.mp hcut
        exact ⟨rfl, hfirst.cons hlead⟩
      · rintro ⟨hsplit, hfirst⟩
        cases a with
        | nil => simp [hsplit, dropLead_eq_some.mpr rfl] at hlead
        | cons d a =>
          obtain ⟨rfl, rfl⟩ : c = d ∧ s = a ++ sep ++ b := by simpa using hsplit
          exact ⟨a, b, ih.mpr ⟨rfl, hfirst.tail⟩, rfl, rfl⟩

end

/-! ## At one character -/

variable {c : Char}

theorem standsFirst_char_iff {a b : List Char} : StandsFirst [c] a b ↔ c ∉ a := by
  constructor
  · intro h hmem
    obtain ⟨front, back, rfl⟩ := List.append_of_mem hmem
    have := h front (back ++ [c] ++ b) (by simp)
    simp only [List.length_append, List.length_cons] at this
    omega
  · intro h front back hsame
    rw [List.append_assoc, List.append_assoc] at hsame
    rcases List.append_eq_append_iff.mp hsame with ⟨between, rfl, -⟩ | ⟨between, rfl, hrest⟩
    · simp
    · cases between with
      | nil => simp
      | cons d between =>
        -- The character in front of what follows `front` would stand in `a`.
        obtain rfl : c = d := (List.cons.inj hrest).1
        simp at h

theorem cut_char_eq_some_iff {s a b : List Char} :
    cut [c] s = some (a, b) ↔ s = a ++ c :: b ∧ c ∉ a := by
  rw [cut_eq_some_iff, standsFirst_char_iff, List.append_assoc, List.singleton_append]

theorem cut_char_append {a : List Char} (h : c ∉ a) (b : List Char) :
    cut [c] (a ++ c :: b) = some (a, b) :=
  cut_char_eq_some_iff.mpr ⟨rfl, h⟩

theorem cut_char_eq_none_iff {s : List Char} : cut [c] s = none ↔ c ∉ s := by
  constructor
  · intro h hmem
    obtain ⟨front, back, rfl, hfront⟩ := List.eq_append_cons_of_mem hmem
    rw [cut_char_append hfront] at h
    cases h
  · intro h
    cases hcut : cut [c] s with
    | none => rfl
    | some p =>
      obtain ⟨rfl, -⟩ := cut_char_eq_some_iff.mp hcut
      exact absurd (List.mem_append_right _ List.mem_cons_self) h

/-! ## At the end -/

theorem dropEnd_concat (s : List Char) (d : Char) :
    dropEnd c (s ++ [d]) = if d = c then dropEnd c s else s ++ [d] := by
  simpa [dropEnd, List.rdropWhile] using List.rdropWhile_concat (· == c) s d

theorem getLast?_dropEnd (s : List Char) : (dropEnd c s).getLast? ≠ some c := by
  induction s using List.reverseRecOn with
  | nil => simp [dropEnd]
  | append_singleton s d ih =>
    rw [dropEnd_concat]
    by_cases hd : d = c
    · rwa [if_pos hd]
    · simpa [if_neg hd] using hd

theorem exists_eq_dropEnd_append (s : List Char) :
    ∃ n, s = dropEnd c s ++ List.replicate n c := by
  induction s using List.reverseRecOn with
  | nil => exact ⟨0, rfl⟩
  | append_singleton s d ih =>
    rw [dropEnd_concat]
    by_cases hd : d = c
    · obtain ⟨n, hs⟩ := ih
      exact ⟨n + 1, by rw [if_pos hd, List.replicate_succ', ← List.append_assoc, ← hs, hd]⟩
    · exact ⟨0, by simp [if_neg hd]⟩

theorem dropEnd_append_replicate (s : List Char) (n : Nat) :
    dropEnd c (s ++ List.replicate n c) = dropEnd c s := by
  induction n with
  | zero => simp
  | succ n ih => rw [List.replicate_succ', ← List.append_assoc, dropEnd_concat, if_pos rfl, ih]

theorem dropEnd_of_getLast? {s : List Char} (h : s.getLast? ≠ some c) : dropEnd c s = s := by
  induction s using List.reverseRecOn with
  | nil => rfl
  | append_singleton s d _ => rw [dropEnd_concat, if_neg (by simpa using h)]

/-- What is left of a text does not end in `c`, and only copies of `c` are lost. -/
theorem dropEnd_eq_iff {s front : List Char} :
    dropEnd c s = front ↔ (∃ n, s = front ++ List.replicate n c) ∧ front.getLast? ≠ some c := by
  constructor
  · rintro rfl
    exact ⟨exists_eq_dropEnd_append s, getLast?_dropEnd s⟩
  · rintro ⟨⟨n, rfl⟩, hlast⟩
    rw [dropEnd_append_replicate, dropEnd_of_getLast? hlast]

end TelemetrySidecar.Text

/-
  Cutting text

  Text is cut at the first place a separator stands: into what comes before and
  what comes after (`cut`), or again and again into pieces (`pieces`). Nothing
  is lost: joining with the separator gives the text back (`cut_eq_some`,
  `intercalate_pieces`).
-/

namespace TelemetrySidecar.Text

/-- What follows `lead`, if the text begins with it. -/
def dropLead : List Char → List Char → Option (List Char)
  | [], s => some s
  | _ :: _, [] => none
  | c :: lead, d :: s => if c = d then dropLead lead s else none

/-- What precedes `tail`, if the text ends with it. -/
def dropTail (tail s : List Char) : Option (List Char) :=
  (dropLead tail.reverse s.reverse).map List.reverse

/-- The text before and after the first `sep`. -/
def cut (sep : List Char) : List Char → Option (List Char × List Char)
  | [] => (dropLead sep []).map fun rest => ([], rest)
  | c :: s =>
    match dropLead sep (c :: s) with
    | some rest => some ([], rest)
    | none => (cut sep s).map fun p => (c :: p.1, p.2)

/-- Whether `sep` stands anywhere in the text. -/
def holds (sep s : List Char) : Bool := (cut sep s).isSome

theorem dropLead_eq_some {lead s rest : List Char} :
    dropLead lead s = some rest ↔ s = lead ++ rest := by
  induction lead generalizing s with
  | nil => simp [dropLead, eq_comm]
  | cons c lead ih =>
    cases s with
    | nil => simp [dropLead]
    | cons d s =>
      by_cases h : c = d
      · simp [dropLead, h, ih]
      · simp [dropLead, h, Ne.symm h]

theorem dropTail_eq_some {tail s front : List Char} :
    dropTail tail s = some front ↔ s = front ++ tail := by
  simp only [dropTail, Option.map_eq_some_iff, dropLead_eq_some]
  constructor
  · rintro ⟨a, h, rfl⟩
    simpa using congrArg List.reverse h
  · rintro rfl
    exact ⟨front.reverse, by simp, by simp⟩

/-- A cut loses nothing but the separator. -/
theorem cut_eq_some {sep s a b : List Char} (h : cut sep s = some (a, b)) :
    s = a ++ sep ++ b := by
  induction s generalizing a with
  | nil =>
    simp only [cut, Option.map_eq_some_iff, Prod.mk.injEq] at h
    obtain ⟨r, hr, rfl, rfl⟩ := h
    simpa using dropLead_eq_some.mp hr
  | cons c s ih =>
    simp only [cut] at h
    split at h
    · rename_i rest hr
      simp only [Option.some.injEq, Prod.mk.injEq] at h
      obtain ⟨rfl, rfl⟩ := h
      simpa using dropLead_eq_some.mp hr
    · simp only [Option.map_eq_some_iff, Prod.mk.injEq] at h
      obtain ⟨p, hp, rfl, rfl⟩ := h
      simp [ih hp]

/-- The pieces of a text between single separator characters; there is always
at least one. -/
def pieces (sep : Char) : List Char → List (List Char)
  | [] => [[]]
  | c :: s =>
    if c = sep then [] :: pieces sep s
    else match pieces sep s with
      | [] => [[c]]
      | p :: ps => (c :: p) :: ps

theorem pieces_ne_nil (sep : Char) (s : List Char) : pieces sep s ≠ [] := by
  fun_cases pieces sep s <;> simp_all

/-- Pieces lose nothing but the separators. -/
theorem intercalate_pieces (sep : Char) (s : List Char) : [sep].intercalate (pieces sep s) = s := by
  induction s with
  | nil => rfl
  | cons c s ih =>
    rw [pieces]
    cases hp : pieces sep s with
    | nil => exact absurd hp (pieces_ne_nil sep s)
    | cons p ps =>
      rw [hp] at ih
      split
      · rename_i h
        rw [List.intercalate_cons_cons, ih, h]
        rfl
      · cases ps <;> simp_all [List.intercalate_cons_cons]

/-- The text without the copies of `c` at its end. -/
def dropEnd (c : Char) (s : List Char) : List Char :=
  (s.reverse.dropWhile (· == c)).reverse

end TelemetrySidecar.Text

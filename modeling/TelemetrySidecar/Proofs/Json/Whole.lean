import TelemetrySidecar.Proofs.Telemetry.Batch

/-
  Whole values

  Where a text is broken its reading stops, and all that is open there stays open.

  What is proved: a value after which the text can be read on is whole, and so is all that
  it holds, so it can be passed over (`taken_whole`). In particular each member of a
  document that is one object can be passed over (`passes_of_isObject`).
-/

namespace TelemetrySidecar.Json

variable {α : Type}

/-- The members of an object as they are listed. -/
abbrev Members := List (Except Fault (List Char) × Tree)

/-- A tree that can be passed over, whatever it is. -/
def Tree.Passes (t : Tree) : Prop := t.pass = .ok ()

/-- Whether the tree is not broken off. -/
def Tree.isWhole : Tree → Bool
  | broken _ => false
  | list _ ending | object _ ending => ending == .closed
  | _ => true

theorem Tree.passItems_eq_ok_iff {items : List Tree} :
    passItems items = .ok () ↔ ∀ v ∈ items, v.Passes := by
  induction items with
  | nil => simp [passItems]
  | cons v items ih =>
    rw [passItems, bind_eq_ok_iff, List.forall_mem_cons, ← ih]
    exact ⟨fun ⟨_, h, more⟩ => ⟨h, more⟩, fun ⟨h, more⟩ => ⟨(), h, more⟩⟩

theorem Tree.passMembers_eq_ok_iff {members : Members} :
    passMembers members = .ok () ↔ ∀ m ∈ members, m.2.Passes := by
  induction members with
  | nil => simp [passMembers]
  | cons m members ih =>
    rw [passMembers, bind_eq_ok_iff, List.forall_mem_cons, ← ih]
    exact ⟨fun ⟨_, h, more⟩ => ⟨h, more⟩, fun ⟨h, more⟩ => ⟨(), h, more⟩⟩

theorem Tree.passes_list {items : List Tree} (each : ∀ v ∈ items, v.Passes) :
    (list items .closed).Passes := by
  rw [Passes, pass, bind_eq_ok_iff]
  exact ⟨(), passItems_eq_ok_iff.mpr each, rfl⟩

theorem Tree.passes_object {members : Members} (each : ∀ m ∈ members, m.2.Passes) :
    (object members .closed).Passes := by
  rw [Passes, pass, bind_eq_ok_iff]
  exact ⟨(), passMembers_eq_ok_iff.mpr each, rfl⟩

/-- The text goes on after a value exactly if the value is whole, and then it can be
passed over. -/
def Whole (taken : Taken) : Prop :=
  (taken.1.isWhole = true ↔ taken.2.isSome = true) ∧ (taken.2.isSome = true → taken.1.Passes)

theorem whole_stopped (place : Break) : Whole (stopped place) := by
  simp [Whole, stopped, Tree.isWhole]

theorem whole_wordValue (word : String) (v : Tree) (s : List Glyph) (whole : v.isWhole = true)
    (passes : v.Passes) : Whole (wordValue word v s) := by
  unfold wordValue
  split
  · simp [Whole, whole, passes]
  · exact whole_stopped _

theorem whole_scalarValue (fuel : Nat) (s : List Glyph) : Whole (scalarValue fuel s) := by
  unfold scalarValue
  split
  · exact whole_stopped _
  · unfold stringValue
    split
    · exact ⟨by simp [Tree.isWhole], fun _ => rfl⟩
    · exact whole_stopped _
  · exact whole_wordValue _ _ _ rfl rfl
  · exact whole_wordValue _ _ _ rfl rfl
  · exact whole_wordValue _ _ _ rfl rfl
  · split
    · unfold numberValue
      split
      · exact ⟨by simp [Tree.isWhole], fun _ => rfl⟩
      · exact whole_stopped _
    · exact whole_stopped _
  · exact whole_stopped _

/-- Items or members were read to the bracket that closes them exactly if the text goes on
after it, and then each of them can be passed over. -/
def Closes (fits : α → Prop) (taken : List α × Ending × Option (List Glyph)) : Prop :=
  (taken.2.1 = .closed ↔ taken.2.2.isSome = true) ∧
    (taken.2.2.isSome = true → ∀ a ∈ taken.1, fits a)

theorem closes_unclosed {fits : α → Prop} (as : List α) (s : List Glyph) :
    Closes fits (as, unclosed s, none) := by
  simp [Closes, unclosed]

theorem closes_last {fits : α → Prop} {a : α} (h : fits a) (rest : List Glyph) :
    Closes fits ([a], .closed, some rest) := by
  simp [Closes, h]

theorem Closes.cons {fits : α → Prop} {a : α} {as : List α} {ending : Ending}
    {rest : Option (List Glyph)} (h : fits a) (more : Closes fits (as, ending, rest)) :
    Closes fits (a :: as, ending, rest) :=
  ⟨more.1, fun goesOn => List.forall_mem_cons.mpr ⟨h, more.2 goesOn⟩⟩

theorem Closes.list {items : List Tree} {ending : Ending} {rest : Option (List Glyph)}
    (h : Closes Tree.Passes (items, ending, rest)) : Whole (.list items ending, rest) := by
  refine ⟨by simpa [Tree.isWhole] using h.1, fun goesOn => ?_⟩
  obtain rfl : ending = .closed := h.1.mpr goesOn
  exact Tree.passes_list (h.2 goesOn)

theorem Closes.object {members : Members} {ending : Ending}
    {rest : Option (List Glyph)} (h : Closes (·.2.Passes) (members, ending, rest)) :
    Whole (.object members ending, rest) := by
  refine ⟨by simpa [Tree.isWhole] using h.1, fun goesOn => ?_⟩
  obtain rfl : ending = .closed := h.1.mpr goesOn
  exact Tree.passes_object (h.2 goesOn)

theorem taken_whole (fuel : Nat) : (∀ s, Whole (takeValue fuel s)) ∧
    (∀ s, Closes Tree.Passes (takeItems fuel s)) ∧
    ∀ c s, Closes (·.2.Passes) (takeMembers fuel c s) := by
  -- Collections are read with the fuel their values leave, so all three go together.
  induction fuel with
  | zero =>
    exact ⟨fun s => whole_stopped _, fun s => closes_unclosed _ _, fun c s => closes_unclosed _ _⟩
  | succ fuel ih =>
    obtain ⟨value, items, members⟩ := ih
    refine ⟨fun s => ?_, fun s => ?_, fun c s => ?_⟩
    · unfold takeValue
      dsimp only
      split
      · split
        · simp [Whole, Tree.isWhole, Tree.passes_list]
        · exact (closes_unclosed [] []).list
        · exact (items _).list
      · split
        · simp [Whole, Tree.isWhole, Tree.passes_object]
        · exact (members _ _).object
      · exact whole_scalarValue fuel _
    · unfold takeItems
      have read := value s
      split
      · exact closes_unclosed _ _
      · rename_i item rest taken
        rw [taken] at read
        have passes := read.2 rfl
        split
        · exact closes_last passes _
        · exact .cons passes (items _)
        · exact closes_unclosed _ _
    · unfold takeMembers
      split
      · split
        · simp [Closes]
        · split
          · rename_i name _ _ after _
            have read := value after
            split
            · exact closes_unclosed _ _
            · rename_i item rest taken
              rw [taken] at read
              have passes := read.2 rfl
              split
              · simpa [Closes] using passes
              · exact .cons passes (members _ _)
              · exact closes_unclosed _ _
          · exact closes_unclosed _ _
      · simp [Closes, unnamed]

/-- The text is one object with these members, and nothing follows it. -/
def IsObject (text : String) (members : Members) : Prop :=
  Document.ofText text = ⟨.object members .closed, false⟩

theorem passes_of_isObject {text : String} {members : Members}
    (h : IsObject text members) : ∀ m ∈ members, m.2.Passes := by
  unfold IsObject Document.ofText Document.ofGlyphs at h
  obtain ⟨whole, passes⟩ :=
    (taken_whole (2 * (text.toList.map some).length + 2)).1 (text.toList.map some)
  have value : (takeValue (2 * (text.toList.map some).length + 2) (text.toList.map some)).1 =
      .object members .closed := by
    split at h
    · rename_i taken
      rw [taken]
      exact congrArg Document.value h
    · rename_i taken
      rw [taken]
      exact congrArg Document.value h
  rw [value] at whole passes
  have passes := passes (whole.mp rfl)
  rw [Tree.Passes, Tree.pass, bind_eq_ok_iff] at passes
  obtain ⟨_, each, _⟩ := passes
  exact Tree.passMembers_eq_ok_iff.mp each

end TelemetrySidecar.Json

import TelemetrySidecar.Proofs.Configuration.Merge

/-
  Which source decides

  A configuration has a value at a path of keys if the path leads to it through
  untagged mappings (`Mapping.at?`). It settles a path if it has any value
  there, or one that is no mapping on the way (`Mapping.Settles`).

  What is proved: of a value that is no mapping, a merge has it exactly where
  the second configuration has it, or where that one settles nothing and the
  first one has it (`at?_merge`); hence a row of merges has it exactly where
  one configuration has it and no later one settles the path
  (`at?_foldl_merge`).
-/

namespace TelemetrySidecar

namespace Mapping

/-- The value under a path of keys of any kind, through untagged mappings. -/
def at? : List Node → Mapping → Option Node
  | [], _ => none
  | [key], m => m.find? key
  | key :: rest, m =>
    match m.find? key with
    | some (.map inner) => at? rest inner
    | _ => none

/-- A mapping settles a path if it has a value there, or one that is no mapping
at a proper beginning of the path. -/
def Settles (m : Mapping) (path : List Node) : Prop :=
  (m.at? path).isSome ∨
    ∃ front v, front <+: path ∧ front ≠ path ∧ m.at? front = some v ∧ v.isMapping = false

/-! ## Descending by one key -/

theorem at?_nil (m : Mapping) : m.at? [] = none := rfl

theorem at?_single (key : Node) (m : Mapping) : m.at? [key] = m.find? key := rfl

theorem at?_cons_cons (key next : Node) (rest : List Node) (m : Mapping) :
    m.at? (key :: next :: rest) =
      match m.find? key with
      | some (.map inner) => at? (next :: rest) inner
      | _ => none := rfl

theorem at?_of_find?_none {key : Node} {m : Mapping} (h : m.find? key = none)
    (rest : List Node) : m.at? (key :: rest) = none := by
  cases rest <;> simp [at?_single, at?_cons_cons, h]

theorem at?_of_find?_map {key : Node} {m inner : Mapping} (h : m.find? key = some (.map inner))
    {rest : List Node} (hr : rest ≠ []) : m.at? (key :: rest) = inner.at? rest := by
  cases rest with
  | nil => exact absurd rfl hr
  | cons next rest => simp [at?_cons_cons, h]

theorem at?_of_find?_other {key v : Node} {m : Mapping} (h : m.find? key = some v)
    (hv : v.isMapping = false) {rest : List Node} (hr : rest ≠ []) :
    m.at? (key :: rest) = none := by
  cases rest with
  | nil => exact absurd rfl hr
  | cons next rest =>
    cases v <;> simp_all [at?_cons_cons, Node.isMapping]

theorem settles_of_find?_none {key : Node} {m : Mapping} (h : m.find? key = none)
    (rest : List Node) : ¬ m.Settles (key :: rest) := by
  rintro (hs | ⟨front, v, hp, _, hv, _⟩)
  · simp [at?_of_find?_none h] at hs
  · cases front with
    | nil => simp [at?_nil] at hv
    | cons k front =>
      obtain ⟨rfl, _⟩ := List.cons_prefix_cons.mp hp
      simp [at?_of_find?_none h] at hv

theorem settles_of_find?_other {key v : Node} {m : Mapping} (h : m.find? key = some v)
    (hv : v.isMapping = false) (rest : List Node) : m.Settles (key :: rest) := by
  cases rest with
  | nil => exact .inl (by simp [at?_single, h])
  | cons next rest => exact .inr ⟨[key], v, by simp, by simp, h, hv⟩

theorem settles_of_find?_map {key : Node} {m inner : Mapping}
    (h : m.find? key = some (.map inner)) {rest : List Node} (hr : rest ≠ []) :
    m.Settles (key :: rest) ↔ inner.Settles rest := by
  unfold Settles
  rw [at?_of_find?_map h hr]
  refine or_congr Iff.rfl ⟨?_, ?_⟩
  · rintro ⟨front, v, hp, hne, hv, hm⟩
    cases front with
    | nil => simp [at?_nil] at hv
    | cons k front =>
      obtain ⟨rfl, hfr⟩ := List.cons_prefix_cons.mp hp
      by_cases hf : front = []
      · subst hf
        rw [at?_single, h] at hv
        cases hv; simp [Node.isMapping] at hm
      · rw [at?_of_find?_map h hf] at hv
        exact ⟨front, v, hfr, fun h => hne (by rw [h]), hv, hm⟩
  · rintro ⟨front, v, hp, hne, hv, hm⟩
    have hf : front ≠ [] := by
      rintro rfl
      simp [at?_nil] at hv
    refine ⟨key :: front, v, List.cons_prefix_cons.mpr ⟨rfl, hp⟩, by simpa using hne, ?_, hm⟩
    rw [at?_of_find?_map h hf]
    exact hv

/-! ## Merging -/

/-- A value that is no mapping, after a merge. -/
theorem at?_merge {v : Node} (hv : v.isMapping = false) :
    ∀ {path : List Node} {a b : Mapping}, (∀ key ∈ path, key.WellFormed) → b.WellFormed →
    ((a.merge b).at? path = some v ↔
      b.at? path = some v ∨ (¬ b.Settles path ∧ a.at? path = some v))
  | [], a, b, _, _ => by simp [at?_nil]
  | key :: rest, a, b, hp, hb => by
    rw [List.forall_mem_cons] at hp
    have hmerge := find?_merge hp.1 hb a
    cases hbk : b.find? key with
    | none =>
      -- The second mapping says nothing from here on.
      rw [hbk] at hmerge
      have hsame : (a.merge b).at? (key :: rest) = a.at? (key :: rest) := by
        cases rest <;> simp only [at?_single, at?_cons_cons, hmerge]
      simp [hsame, at?_of_find?_none hbk, settles_of_find?_none hbk rest]
    | some w =>
      rw [hbk] at hmerge
      cases hw : w.isMapping with
      | false =>
        -- It stands in for whatever the first mapping had.
        simp only [Node.mergeOver_of_not_mapping hw] at hmerge
        have hsame : (a.merge b).at? (key :: rest) = b.at? (key :: rest) := by
          cases rest <;> simp only [at?_single, at?_cons_cons, hmerge, hbk]
        simp [hsame, settles_of_find?_other hbk hw rest]
      | true =>
        obtain ⟨ib, rfl⟩ := Node.isMapping_iff.mp hw
        by_cases hr : rest = []
        · subst hr
          have hleaf : ∀ {n : Node}, n.isMapping = true → n ≠ v := by
            rintro n hn rfl
            simp [hn] at hv
          have hs : b.Settles [key] := .inl (by simp [at?_single, hbk])
          have hn : (Node.mergeOver (a.find? key) (.map ib)).isMapping = true := by
            rw [Node.isMapping_mergeOver]; rfl
          simp [at?_single, hmerge, hbk, hleaf hw, hleaf hn, hs]
        -- The rest of the path is looked up in what the two make of the key.
        · rw [settles_of_find?_map hbk hr, at?_of_find?_map hbk hr]
          rcases Node.mergeOver_map (a.find? key) ib with ⟨ia, ha, hov⟩ | ⟨hna, hov⟩
          · simp only [hov] at hmerge
            rw [at?_of_find?_map hmerge hr, at?_of_find?_map ha hr]
            exact at?_merge hv hp.2 (hb.inner hbk)
          · simp only [hov] at hmerge
            have hnone : a.at? (key :: rest) = none := by
              cases hak : a.find? key with
              | none => exact at?_of_find?_none hak rest
              | some o => exact at?_of_find?_other hak (hna o hak) hr
            rw [at?_of_find?_map hmerge hr, hnone]
            simp

/-- A value that is no mapping, after merging many configurations in order over
one: some configuration has it and no later one settles its path, or none of
them does and it was there before. -/
theorem at?_foldl_merge {v : Node} (hv : v.isMapping = false) {path : List Node}
    (hp : ∀ key ∈ path, key.WellFormed) :
    ∀ {ds : List Configuration} {c : Configuration}, (∀ d ∈ ds, d.root.WellFormed) →
    ((ds.foldl Configuration.merge c).root.at? path = some v ↔
      (∃ before d after, ds = before ++ d :: after ∧ d.root.at? path = some v ∧
        ∀ e ∈ after, ¬ e.root.Settles path) ∨
      (c.root.at? path = some v ∧ ∀ d ∈ ds, ¬ d.root.Settles path))
  | [], c, _ => by simp
  | d :: ds, c, hw => by
    rw [List.forall_mem_cons] at hw
    rw [List.foldl_cons, at?_foldl_merge hv hp hw.2, Configuration.merge, at?_merge hv hp hw.1]
    constructor
    · rintro (⟨before, e, after, rfl, he, hafter⟩ | ⟨hd | ⟨hd, hc⟩, hds⟩)
      · exact .inl ⟨d :: before, e, after, rfl, he, hafter⟩
      · exact .inl ⟨[], d, ds, rfl, hd, hds⟩
      · exact .inr ⟨hc, List.forall_mem_cons.mpr ⟨hd, hds⟩⟩
    · rintro (⟨before, e, after, heq, he, hafter⟩ | ⟨hc, hds⟩)
      · cases before with
        | nil =>
          obtain ⟨rfl, rfl⟩ := List.cons.inj heq
          exact .inr ⟨.inl he, hafter⟩
        | cons d' before =>
          obtain ⟨rfl, rfl⟩ := List.cons.inj heq
          exact .inl ⟨before, e, after, rfl, he, hafter⟩
      · rw [List.forall_mem_cons] at hds
        exact .inr ⟨.inr ⟨hds.1, hc⟩, hds.2⟩

end Mapping

end TelemetrySidecar

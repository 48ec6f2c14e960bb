import TelemetrySidecar.Configuration.Basic
import TelemetrySidecar.Proofs.Node.Mapping

/-
  What a merge holds

  The entries of the second mapping are put over those of the first one by one,
  so what stands under a key afterwards is what the second mapping says about
  it, merged over what the first one had there (`find?_merge`).

  Merging and putting under a path also keep every property of nodes that goes
  from mappings to their keys and values and back (`Hereditary`). To be
  well-formed is such a property.
-/

namespace TelemetrySidecar

theorem Node.mergeOver_of_not_mapping {n : Node} (h : n.isMapping = false) (old : Option Node) :
    Node.mergeOver old n = n := by
  cases n with
  | map m => cases h
  | _ => rfl

theorem Node.mergeOver_maps (existing m : Mapping) :
    Node.mergeOver (some (.map existing)) (.map m) = .map (existing.merge m) := rfl

/-- A mapping is merged into a mapping and stands in for anything else. -/
theorem Node.mergeOver_map (old : Option Node) (m : Mapping) :
    (∃ existing : Mapping, old = some (.map existing) ∧
      Node.mergeOver old (.map m) = .map (Mapping.merge existing m)) ∨
    ((∀ o, old = some o → o.isMapping = false) ∧ Node.mergeOver old (.map m) = .map m) := by
  cases old with
  | none => exact .inr ⟨nofun, rfl⟩
  | some o =>
    cases o with
    | map existing => exact .inl ⟨existing, rfl, mergeOver_maps existing m⟩
    | _ => exact .inr ⟨by simp [isMapping], rfl⟩

/-- A mapping stands as it is where there was none. -/
theorem Node.mergeOver_of_no_mapping {old : Option Node}
    (h : ∀ o, old = some o → o.isMapping = false) (m : Mapping) :
    Node.mergeOver old (.map m) = .map m := by
  rcases mergeOver_map old m with ⟨existing, rfl, -⟩ | ⟨-, hover⟩
  · cases h _ rfl
  · exact hover

theorem Node.mergeOver_none (n : Node) : Node.mergeOver none n = n := by
  cases n <;> rfl

theorem Mapping.merge_nil (m : Mapping) : m.merge [] = m := rfl

theorem Mapping.merge_cons (m : Mapping) (e : Node × Node) (rest : Mapping) :
    m.merge (e :: rest) = (m.insert e.1 (Node.mergeOver (m.find? e.1) e.2)).merge rest := rfl

theorem Mapping.merge_single (key value : Node) (m : Mapping) :
    m.merge [(key, value)] = m.insert key (Node.mergeOver (m.find? key) value) := rfl

theorem Node.isMapping_mergeOver (old : Option Node) (n : Node) :
    (Node.mergeOver old n).isMapping = n.isMapping := by
  cases hn : n.isMapping with
  | false => rw [mergeOver_of_not_mapping hn, hn]
  | true =>
    obtain ⟨m, rfl⟩ := isMapping_iff.mp hn
    rcases mergeOver_map old m with ⟨_, _, h⟩ | ⟨_, h⟩ <;> rw [h] <;> rfl

theorem Mapping.find?_merge {k : Node} (hk : k.WellFormed) :
    ∀ {b : Mapping}, b.WellFormed → ∀ a : Mapping,
    (a.merge b).find? k = match b.find? k with
      | none => a.find? k
      | some v => some (Node.mergeOver (a.find? k) v)
  | [], _, a => by simp [merge_nil, find?_nil]
  | (key, value) :: b, hb, a => by
    have hkey : key.WellFormed := hb.keys (key, value) List.mem_cons_self
    rw [merge_cons, find?_merge hk hb.of_cons, find?_insert hk hkey, find?_cons]
    by_cases h : k.same key = true
    · -- No later entry has the key.
      have hnone : Mapping.find? k b = none := by
        rw [find?_congr hk h, find?_eq_none_iff]
        exact (List.pairwise_cons.mp hb.apart).1
      simp only [hnone, h, if_true, find?_congr hk h]
    · simp only [h, Bool.false_eq_true, if_false]

/-! ## Properties that merging keeps -/

/-- A property of nodes that a mapping shares with its values, keeps when an
entry is put, and has only with keys of a certain property. -/
structure Hereditary (K V : Node → Prop) : Prop where
  empty : V (.map [])
  insert {m : Mapping} {key value : Node} :
    V (.map m) → K key → V value → V (.map (m.insert key value))
  keys {m : Mapping} : V (.map m) → ∀ e ∈ m, K e.1
  values {m : Mapping} : V (.map m) → ∀ e ∈ m, V e.2

namespace Hereditary

variable {K V : Node → Prop}

theorem find? (h : Hereditary K V) {m : Mapping} (hm : V (.map m)) {k v : Node}
    (hv : m.find? k = some v) : V v := by
  obtain ⟨key, hmem, _⟩ := Mapping.mem_of_find? hv
  exact h.values hm _ hmem

/-- Entries are merged one by one into a mapping with the property. -/
theorem mergeEntries (h : Hereditary K V) {entries : Mapping} (hk : ∀ e ∈ entries, K e.1)
    (hv : ∀ e ∈ entries, ∀ old, (∀ o, old = some o → V o) → V (Node.mergeOver old e.2)) :
    ∀ target : Mapping, V (.map target) → V (.map (target.merge entries)) := by
  induction entries with
  | nil =>
    intro target ht
    rwa [Mapping.merge_nil]
  | cons e entries ih =>
    intro target ht
    rw [List.forall_mem_cons] at hk hv
    rw [Mapping.merge_cons]
    exact ih hk.2 hv.2 _ (h.insert ht hk.1 (hv.1 _ fun o ho => h.find? ht ho))

theorem mergeOver (h : Hereditary K V) (n : Node) :
    ∀ old, (∀ o, old = some o → V o) → V n → V (Node.mergeOver old n) := by
  induction n using Node.induct with
  | map entries _ ih =>
    intro old hold hn
    have hv : ∀ e ∈ entries, ∀ old, (∀ o, old = some o → V o) → V (Node.mergeOver old e.2) :=
      fun e he old hold => ih e he old hold (h.values hn e he)
    -- Only a mapping over a mapping is merged; else the new value stands.
    cases old with
    | none => exact hn
    | some o =>
      cases o with
      | map existing =>
        rw [Node.mergeOver_maps]
        exact h.mergeEntries (h.keys hn) hv existing (hold _ rfl)
      | _ => exact hn
  | _ =>
    intro old _ hn
    exact hn

/-- Two mappings with the property are merged into one that has it. -/
theorem merge (h : Hereditary K V) {a b : Mapping} (ha : V (.map a)) (hb : V (.map b)) :
    V (.map (a.merge b)) := by
  have := h.mergeOver (.map b) (some (.map a)) (by simpa using ha) hb
  rwa [Node.mergeOver_maps] at this

/-- A value with the property is put under a path into a mapping that has it. -/
theorem put (h : Hereditary K V) {value : Node} (hv : V value) :
    ∀ {path : List String} {m : Mapping}, (∀ s ∈ path, K (.text s)) → V (.map m) →
    V (.map (m.put value path))
  | [], m, _, hm => by simpa [Mapping.put] using hm
  | [s], m, hp, hm => by
    rw [Mapping.put]
    exact h.insert hm (hp s List.mem_cons_self) hv
  | s :: t :: path, m, hp, hm => by
    rw [List.forall_mem_cons] at hp
    simp only [Mapping.put]
    split
    · rename_i inner hin
      exact h.insert hm hp.1 (h.put hv hp.2 (h.find? hm hin))
    · split
      · exact hm
      · exact h.insert hm hp.1 (h.put hv hp.2 h.empty)
    · exact h.insert hm hp.1 (h.put hv hp.2 h.empty)

end Hereditary

theorem Node.wellFormed_hereditary : Hereditary Node.WellFormed Node.WellFormed where
  empty := Mapping.wellFormed_iff.mpr .nil
  insert hm hk hv :=
    Mapping.wellFormed_iff.mpr ((Mapping.wellFormed_iff.mp hm).insert hk hv)
  keys hm := (Mapping.wellFormed_iff.mp hm).keys
  values hm := (Mapping.wellFormed_iff.mp hm).values

theorem Mapping.WellFormed.merge {a b : Mapping} (ha : a.WellFormed) (hb : b.WellFormed) :
    (a.merge b).WellFormed :=
  wellFormed_iff.mp (Node.wellFormed_hereditary.merge (wellFormed_iff.mpr ha)
    (wellFormed_iff.mpr hb))

end TelemetrySidecar

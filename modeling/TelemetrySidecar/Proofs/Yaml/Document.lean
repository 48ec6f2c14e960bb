import TelemetrySidecar.Proofs.Node.Mapping
import TelemetrySidecar.Yaml.Document

/-
  Documents have well-formed nodes

  A key is taken into a mapping only if none that is the same stands there
  already, so every node that is read from a text is well-formed, keys and
  aliased nodes included (`ofYaml_wellFormed`). The proof goes by the fuel of
  the three readers at once.
-/

namespace TelemetrySidecar

theorem Mapping.WellFormed.concat {m : Mapping} (hm : m.WellFormed) {key value : Node}
    (hk : key.WellFormed) (hv : value.WellFormed) (hnew : m.has key = false) :
    WellFormed (m ++ [(key, value)]) := by
  have hnone : m.find? key = none := by simpa [has] using hnew
  rw [find?_eq_none_iff] at hnone
  have hapart : ∀ e ∈ m, e.1.same key = false := by
    intro e he
    cases h : e.1.same key
    · rfl
    · have := Node.same_symm (hm.keys e he) key h
      simp [hnone e he] at this
  refine ⟨?_, ?_, ?_⟩
  · intro e he
    rcases List.mem_append.mp he with he | he
    · exact hm.keys e he
    · simp at he; subst he; exact hk
  · intro e he
    rcases List.mem_append.mp he with he | he
    · exact hm.values e he
    · simp at he; subst he; exact hv
  · rw [List.pairwise_append]
    refine ⟨hm.apart, List.pairwise_singleton .., ?_⟩
    intro e he f hf
    simp at hf; subst hf
    exact hapart e he

namespace Yaml

/-! ## Scalars -/

theorem integerNode_wellFormed {s : String} {n : Node} (h : integerNode s = some (.ok n)) :
    n.WellFormed := by
  unfold integerNode at h
  split at h
  · cases h
  · split at h
    · cases h; exact .int _
    · cases h
    · cases h

theorem plainNode_wellFormed {s : String} {n : Node} (h : plainNode s = some n) :
    n.WellFormed := by
  unfold plainNode at h
  split at h
  · cases h; exact .null
  · split at h
    · cases h; exact .bool _
    · split at h
      · rename_i hi
        cases h; exact integerNode_wellFormed hi
      · cases h
      · split at h
        · cases h; exact .text _
        · split at h
          · cases h; exact .float _
          · cases h; exact .text _

theorem scalarNode_wellFormed {tag : Option (List UInt8)} {s : String} {style : Style} {n : Node}
    (h : scalarNode tag s style = .ok n) : n.WellFormed := by
  have hplain : ∀ {n : Node}, scalarNode none s style = .ok n → n.WellFormed := by
    intro n h
    simp only [scalarNode] at h
    split at h
    · split at h
      · rename_i hp
        cases h; exact plainNode_wellFormed hp
      · cases h
    · cases h; exact .text _
  simp only [scalarNode] at h
  split at h
  · exact hplain h
  · split at h
    · split at h
      · cases h; exact .bool _
      · cases h
    · split at h
      · split at h
        · rename_i hi
          cases h; exact integerNode_wellFormed hi
        · cases h
      · split at h
        · split at h
          · cases h; exact .float _
          · cases h
        · split at h
          · split at h
            · cases h; exact .null
            · cases h
          · split at h
            · exact hplain h
            · cases h; exact .text _

/-! ## Collections -/

theorem wrap_wellFormed (p : Properties) {n : Node} (h : n.WellFormed) :
    (buildNode.wrap p n).WellFormed := by
  unfold buildNode.wrap
  split
  · exact .tagged _ h
  · exact h

/-- What each of the three readers gives with some fuel is well-formed. -/
theorem build_wellFormed (limits : Limits) : ∀ fuel : Nat,
    (∀ {depth jumps events n rest left},
      buildNode limits fuel depth jumps events = .ok (n, rest, left) → n.WellFormed) ∧
    (∀ {depth jumps events items rest left},
      buildItems limits fuel depth jumps events = .ok (items, rest, left) →
      ∀ i ∈ items, i.WellFormed) ∧
    (∀ {depth jumps entries events all rest left}, Mapping.WellFormed entries →
      buildEntries limits fuel depth jumps entries events = .ok (all, rest, left) →
      Mapping.WellFormed all)
  | 0 => by simp [buildNode, buildItems, buildEntries]
  | fuel + 1 => by
    obtain ⟨ihNode, ihItems, ihEntries⟩ := build_wellFormed limits fuel
    refine ⟨?_, ?_, ?_⟩
    · intro depth jumps events n rest left h
      rw [buildNode.eq_def] at h
      dsimp only at h
      split at h
      · -- an alias
        split at h
        · cases h
        · split at h
          · cases h
          · split at h
            · cases h
            · rename_i hn
              cases h; exact ihNode hn
      · -- a scalar
        split at h <;> simp only [Except.map] at h <;> split at h
        · cases h
        · rename_i hs
          cases h; exact .tagged _ (scalarNode_wellFormed hs)
        · cases h
        · rename_i hs
          cases h; exact scalarNode_wellFormed hs
      · -- a sequence
        split at h
        · cases h
        · split at h
          · cases h
          · rename_i hi
            cases h; exact wrap_wellFormed _ (.seq (ihItems hi))
      · -- a mapping
        split at h
        · cases h
        · split at h
          · cases h
          · rename_i he
            cases h
            exact wrap_wellFormed _ (Mapping.wellFormed_iff.mpr (ihEntries .nil he))
      · cases h
    · intro depth jumps events items rest left h
      rw [buildItems.eq_def] at h
      dsimp only at h
      split at h
      · cases h; simp
      · split at h
        · cases h
        · rename_i hn
          split at h
          · cases h
          · rename_i hi
            cases h
            exact List.forall_mem_cons.mpr ⟨ihNode hn, ihItems hi⟩
    · intro depth jumps entries events all rest left hm h
      rw [buildEntries.eq_def] at h
      dsimp only at h
      split at h
      · cases h; exact hm
      · split at h
        · cases h
        · rename_i hk
          split at h
          · cases h
          · rename_i hnew
            split at h
            · cases h
            · rename_i hv
              exact ihEntries (hm.concat (ihNode hk) (ihNode hv) (by simpa using hnew)) h

theorem nodeOfEvents_wellFormed {events : List Event} {n : Node}
    (h : nodeOfEvents events = .ok n) : n.WellFormed := by
  simp only [nodeOfEvents, bind, Except.bind, pure, Except.pure] at h
  split at h
  · cases h
  · split at h
    · cases h; exact .null
    · split at h
      · cases h
      · rename_i hn
        cases h; exact (build_wellFormed _ _).1 hn

end Yaml

theorem Node.ofYaml_wellFormed {text : String} {n : Node} (h : Node.ofYaml text = .ok n) :
    n.WellFormed := by
  simp only [Node.ofYaml, bind, Except.bind] at h
  split at h
  · cases h
  · split at h
    · cases h
    · exact Yaml.nodeOfEvents_wellFormed h

end TelemetrySidecar

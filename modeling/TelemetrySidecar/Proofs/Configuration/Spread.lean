import TelemetrySidecar.Configuration.Document
import TelemetrySidecar.Proofs.Configuration.KeyPath
import TelemetrySidecar.Proofs.Configuration.Merge
import TelemetrySidecar.Proofs.Yaml.Document

/-
  What spreading leaves

  After keys are spread, no key that is reached from the root through untagged
  mappings and sequences is a nested path (`IsSpread`): a nested key is put as
  mappings within mappings whose keys are single, and merging brings together
  only keys there were. A well-formed node stays well-formed. So both hold of
  every configuration a document describes (`regular_ofYaml`), and of what such
  configurations are merged into.
-/

namespace TelemetrySidecar

/-- A key that is no nested path, tags aside. -/
def Node.IsSingle (key : Node) : Prop := ∀ s, key.text? = some s → KeyPath.isNested s = false

theorem Node.isSingle_text {s : String} (h : KeyPath.isNested s = false) :
    (Node.text s).IsSingle := by
  intro t ht
  simp [Node.text?, Node.untagged] at ht
  rwa [← ht]

/-- No key of a mapping is a nested path, where mappings are reached through
untagged mappings and sequences. -/
inductive Node.IsSpread : Node → Prop where
  | null : IsSpread .null
  | bool (b : Bool) : IsSpread (.bool b)
  | int (i : Int) : IsSpread (.int i)
  | float (x : Binary64) : IsSpread (.float x)
  | text (s : String) : IsSpread (.text s)
  | seq {items : List Node} (each : ∀ i ∈ items, IsSpread i) : IsSpread (.seq items)
  | map {entries : List (Node × Node)} (keys : ∀ e ∈ entries, e.1.IsSingle)
      (values : ∀ e ∈ entries, IsSpread e.2) : IsSpread (.map entries)
  | tagged (tag : String) (value : Node) : IsSpread (.tagged tag value)

namespace Node

theorem isSpread_map_iff {m : Mapping} :
    (Node.map m).IsSpread ↔ (∀ e ∈ m, e.1.IsSingle) ∧ ∀ e ∈ m, e.2.IsSpread := by
  constructor
  · intro h
    cases h with
    | map keys values => exact ⟨keys, values⟩
  · rintro ⟨keys, values⟩
    exact .map keys values

theorem isSpread_hereditary : Hereditary IsSingle IsSpread where
  empty := isSpread_map_iff.mpr ⟨by simp, by simp⟩
  insert hm hk hv := by
    rw [isSpread_map_iff] at hm ⊢
    exact ⟨Mapping.forall_key_insert hm.1 hk _, Mapping.forall_value_insert hm.2 _ hv⟩
  keys hm := (isSpread_map_iff.mp hm).1
  values hm := (isSpread_map_iff.mp hm).2

end Node

/-! ## Spreading one entry and all -/

theorem Node.spreadItems_eq_map (items : List Node) :
    Node.spreadItems items = items.map Node.spread := by
  induction items with
  | nil => rfl
  | cons item items ih => simp [Node.spreadItems, ih]

/-- The entries are merged one after the other, each spread by itself. -/
theorem Node.spreadEntries_eq_foldl (entries : Mapping) : ∀ done : Mapping,
    spreadEntries done entries =
      (entries.map fun e => Mapping.ofEntry e.1 e.2.spread).foldl Mapping.merge done := by
  induction entries with
  | nil => exact fun _ => rfl
  | cons e entries ih =>
    intro done
    rw [spreadEntries, ih, List.map_cons, List.foldl_cons]

/-- Whether a node is a sequence or a mapping without a tag. -/
def Node.isCollection : Node → Bool
  | .seq _ | .map _ => true
  | _ => false

theorem Mapping.ofEntry_of_isSingle {key : Node} (h : key.IsSingle) (value : Node) :
    Mapping.ofEntry key value = [(key, value)] := by
  unfold Mapping.ofEntry
  split
  · rename_i path ht
    rw [if_neg (by simp [h path ht])]
  · rfl

/-- A string as key is spread by putting the value under the path it is. -/
theorem Mapping.ofEntry_text (path : String) (value : Node) :
    Mapping.ofEntry (.text path) value = Mapping.put value (KeyPath.segments path) [] := by
  have htext : (Node.text path).text? = some path := rfl
  rw [Mapping.ofEntry, htext]
  dsimp only
  split
  · rfl
  · rename_i h
    rw [KeyPath.segments_of_plain (by simpa using h)]
    rfl

namespace Hereditary

variable {K V : Node → Prop}

/-- The mapping that a spread entry is has the property if its value does: its
keys are those the path names, or the key as it is. -/
theorem ofEntry (h : Hereditary K V) {key value : Node}
    (hpath : ∀ path, key.text? = some path → ∀ s ∈ KeyPath.segments path, K (.text s))
    (hkey : key.IsSingle → K key) (hv : V value) : V (.map (Mapping.ofEntry key value)) := by
  by_cases hs : key.IsSingle
  · rw [Mapping.ofEntry_of_isSingle hs]
    exact h.insert h.empty (hkey hs) hv
  · obtain ⟨path, ht, hn⟩ : ∃ path, key.text? = some path ∧ KeyPath.isNested path = true := by
      simpa [Node.IsSingle, Classical.not_forall] using hs
    rw [Mapping.ofEntry, ht]
    dsimp only
    rw [if_pos hn]
    exact h.put hv (hpath path ht) h.empty

theorem spreadEntries (h : Hereditary K V) {entries : Mapping}
    (he : ∀ e ∈ entries, V (.map (Mapping.ofEntry e.1 e.2.spread))) :
    ∀ done : Mapping, V (.map done) → V (.map (Node.spreadEntries done entries)) := by
  induction entries with
  | nil =>
    intro done hd
    simpa [Node.spreadEntries] using hd
  | cons e entries ih =>
    intro done hd
    rw [List.forall_mem_cons] at he
    rw [Node.spreadEntries]
    exact ih he.2 _ (h.merge hd he.1)

/-- What is spread has a property that merging keeps, if single keys, sequences
and all that is no collection allow for it. -/
theorem spread (h : Hereditary K V)
    (hkey : ∀ key : Node, key.IsSingle → K key)
    (hseq : ∀ items, (∀ i ∈ items, V i) → V (.seq items))
    (hleaf : ∀ n : Node, n.isCollection = false → V n) (n : Node) : V n.spread := by
  induction n using Node.induct with
  | seq items ih =>
    rw [Node.spread, Node.spreadItems_eq_map]
    refine hseq _ fun i hi => ?_
    obtain ⟨item, hitem, rfl⟩ := List.mem_map.mp hi
    exact ih item hitem
  | map entries _ ih =>
    rw [Node.spread]
    refine h.spreadEntries (fun e he => ?_) [] h.empty
    refine h.ofEntry ?_ (hkey e.1) (ih e he)
    exact fun path _ s hs => hkey _ (Node.isSingle_text (KeyPath.isNested_of_mem_segments hs))
  | _ => exact hleaf _ rfl

end Hereditary

theorem Mapping.wellFormed_ofEntry {key value : Node} (hk : key.WellFormed)
    (hv : value.WellFormed) : (Mapping.ofEntry key value).WellFormed :=
  wellFormed_iff.mp
    (Node.wellFormed_hereditary.ofEntry (fun _ _ s _ => .text s) (fun _ => hk) hv)

namespace Node

theorem spread_isSpread (n : Node) : n.spread.IsSpread := by
  refine isSpread_hereditary.spread (fun _ h => h) (fun _ => .seq) ?_ n
  intro n h
  cases n with
  | null => exact .null
  | bool b => exact .bool b
  | int i => exact .int i
  | float x => exact .float x
  | text s => exact .text s
  | tagged tag value => exact .tagged tag value
  | _ => simp [isCollection] at h

theorem WellFormed.spread {n : Node} (h : n.WellFormed) : n.spread.WellFormed := by
  induction h with
  | null => exact .null
  | bool b => exact .bool b
  | int i => exact .int i
  | float x => exact .float x
  | text s => exact .text s
  | seq _ ih =>
    rw [Node.spread, spreadItems_eq_map]
    refine .seq fun i hi => ?_
    obtain ⟨item, hitem, rfl⟩ := List.mem_map.mp hi
    exact ih item hitem
  | map keys _ _ _ ih =>
    rw [Node.spread]
    refine wellFormed_hereditary.spreadEntries (fun e he => ?_) [] wellFormed_hereditary.empty
    exact Mapping.wellFormed_iff.mpr (Mapping.wellFormed_ofEntry (keys e he) (ih e he))
  | tagged tag h _ => exact .tagged tag h

end Node

/-! ## Configurations of documents -/

namespace Configuration

/-- A configuration that a document can describe: it is well-formed, and its
keys are spread. -/
structure Regular (c : Configuration) : Prop where
  wellFormed : c.root.WellFormed
  isSpread : (Node.map c.root).IsSpread

theorem regular_empty : empty.Regular :=
  ⟨.nil, Node.isSpread_hereditary.empty⟩

theorem regular_ofYaml {text : String} {c : Configuration} (h : ofYaml text = .ok c) :
    c.Regular := by
  unfold ofYaml at h
  split at h
  · cases h
  · rename_i n hn
    split at h
    · rename_i d hd
      cases h
      have hwf := (Node.ofYaml_wellFormed hn).spread
      have hsp := n.spread_isSpread
      unfold ofNode? at hd
      split at hd
      · cases hd; exact regular_empty
      · rename_i root hroot
        cases hd
        rw [hroot] at hwf hsp
        exact ⟨Mapping.wellFormed_iff.mp hwf, hsp⟩
      · cases hd
    · cases h

theorem Regular.merge {a b : Configuration} (ha : a.Regular) (hb : b.Regular) :
    (a.merge b).Regular where
  wellFormed := ha.wellFormed.merge hb.wellFormed
  isSpread := Node.isSpread_hereditary.merge ha.isSpread hb.isSpread

end Configuration

end TelemetrySidecar

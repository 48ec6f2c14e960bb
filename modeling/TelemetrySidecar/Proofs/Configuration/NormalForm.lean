import Mathlib
import TelemetrySidecar.Proofs.Configuration.Spread

/-
  The normal form of keys

  A node is in normal form if in no mapping that is reached from its root
  through untagged mappings and sequences (`Reaches`) a key holds the delimiter
  of key paths (`KeysUndivided`), whatever tags the key is under.

  What is proved:
    1. `spread_eq_self_iff`: spreading leaves a node exactly as it is if and
       only if the node is in normal form and no key comes twice in a mapping
       (`KeysDiffer`). The second half is no matter of documents, but an
       arbitrary list of entries may have a key twice, and spreading merges
       what is under it.
    2. `spread_normalizes`: what is spread is in normal form, so spreading it
       again gives the same tree; so is every configuration that a document
       describes; and merging keeps the normal form.
-/

namespace TelemetrySidecar

namespace Mapping

/-- No key of the mapping, read through its tags, holds the delimiter. -/
def KeysUndivided (m : Mapping) : Prop :=
  ∀ e ∈ m, ∀ s, e.1.text? = some s → KeyPath.Undivided s

/-- No key of the mapping is the same as one before it. -/
def KeysDiffer (m : Mapping) : Prop := m.Pairwise fun e f => f.1.same e.1 = false

theorem keysUndivided_iff {m : Mapping} : m.KeysUndivided ↔ ∀ e ∈ m, e.1.IsSingle := by
  simp only [KeysUndivided, Node.IsSingle, KeyPath.undivided_iff]

theorem KeysDiffer.insert {m : Mapping} (hm : m.KeysDiffer) (key value : Node) :
    (m.insert key value).KeysDiffer := by
  induction m with
  | nil => exact List.pairwise_singleton ..
  | cons e m ih =>
    obtain ⟨he, hm⟩ := List.pairwise_cons.mp hm
    rw [insert_cons]
    split
    · exact List.pairwise_cons.mpr ⟨he, hm⟩
    · rename_i hne
      refine List.pairwise_cons.mpr ⟨?_, ih hm⟩
      exact forall_key_insert (P := fun n => n.same e.1 = false) he (by simpa using hne) value

end Mapping

namespace Node

/-! ## What is reached from a node -/

/-- A node is reached from another through untagged mappings and sequences. -/
inductive Reaches : Node → Node → Prop where
  | here (node : Node) : Reaches node node
  | item {items : List Node} {i node : Node} (mem : i ∈ items) (on : Reaches i node) :
      Reaches (.seq items) node
  | value {entries : Mapping} {e : Node × Node} {node : Node} (mem : e ∈ entries)
      (on : Reaches e.2 node) : Reaches (.map entries) node

/-- All mappings that are reached from a node have a property. -/
def Everywhere (P : Mapping → Prop) (node : Node) : Prop := ∀ m, node.Reaches (.map m) → P m

variable {P : Mapping → Prop}

theorem everywhere_map_iff {m : Mapping} :
    (Node.map m).Everywhere P ↔ P m ∧ ∀ e ∈ m, e.2.Everywhere P := by
  constructor
  · intro h
    exact ⟨h m (.here _), fun e he inner hi => h inner (.value he hi)⟩
  · rintro ⟨hm, hv⟩ inner hi
    cases hi with
    | here => exact hm
    | value he hi => exact hv _ he inner hi

theorem everywhere_seq_iff {items : List Node} :
    (Node.seq items).Everywhere P ↔ ∀ i ∈ items, i.Everywhere P := by
  constructor
  · exact fun h i hi inner hr => h inner (.item hi hr)
  · intro h inner hr
    cases hr with
    | item hi hr => exact h _ hi inner hr

/-- From a scalar or a tagged node no mapping is reached. -/
theorem everywhere_of_not_collection {n : Node} (h : n.isCollection = false) :
    n.Everywhere P := by
  intro m hr
  cases hr <;> simp [isCollection] at h

/-- `IsSpread` says of each constructor what the normal form says of all that is
reached. -/
theorem isSpread_iff_everywhere {n : Node} : n.IsSpread ↔ n.Everywhere Mapping.KeysUndivided := by
  induction n using induct with
  | seq items ih =>
    rw [everywhere_seq_iff]
    constructor
    · intro h
      cases h with
      | seq each => exact fun i hi => (ih i hi).mp (each i hi)
    · exact fun h => .seq fun i hi => (ih i hi).mpr (h i hi)
  | map entries _ ih =>
    rw [everywhere_map_iff, isSpread_map_iff, Mapping.keysUndivided_iff]
    exact and_congr_right' (forall₂_congr ih)
  | null => exact iff_of_true .null (everywhere_of_not_collection rfl)
  | bool b => exact iff_of_true (.bool b) (everywhere_of_not_collection rfl)
  | int i => exact iff_of_true (.int i) (everywhere_of_not_collection rfl)
  | float x => exact iff_of_true (.float x) (everywhere_of_not_collection rfl)
  | text s => exact iff_of_true (.text s) (everywhere_of_not_collection rfl)
  | tagged tag value => exact iff_of_true (.tagged tag value) (everywhere_of_not_collection rfl)

/-! ## Nodes that spreading leaves as they are -/

theorem keysDiffer_hereditary : Hereditary (fun _ => True) (Everywhere Mapping.KeysDiffer) where
  empty := everywhere_map_iff.mpr ⟨List.Pairwise.nil, by simp⟩
  insert hm _ hv := by
    rw [everywhere_map_iff] at hm ⊢
    exact ⟨hm.1.insert _ _, Mapping.forall_value_insert hm.2 _ hv⟩
  keys _ _ _ := trivial
  values hm := (everywhere_map_iff.mp hm).2

/-- Entries in normal form, none of which has a key that was there, are taken
over one after the other. -/
theorem spreadEntries_eq_append {entries : Mapping} (hs : ∀ e ∈ entries, e.1.IsSingle)
    (hv : ∀ e ∈ entries, e.2.spread = e.2) :
    ∀ done : Mapping, Mapping.KeysDiffer (done ++ entries) →
      spreadEntries done entries = done ++ entries := by
  induction entries with
  | nil =>
    intro done _
    simp [spreadEntries]
  | cons e entries ih =>
    intro done hd
    rw [List.forall_mem_cons] at hs hv
    have hnew : done.find? e.1 = none := by
      rw [Mapping.find?_eq_none_iff]
      intro f hf
      exact (List.pairwise_append.mp hd).2.2 f hf e List.mem_cons_self
    rw [spreadEntries, Mapping.ofEntry_of_isSingle hs.1, hv.1, Mapping.merge_single, hnew,
      mergeOver_none, Mapping.insert_of_find?_none hnew]
    have hd' : Mapping.KeysDiffer (done ++ [e] ++ entries) := by simpa using hd
    simpa using ih hs.2 hv.2 _ hd'

theorem spread_of_normal (n : Node) (hs : n.IsSpread) (hd : n.Everywhere Mapping.KeysDiffer) :
    n.spread = n := by
  induction n using induct with
  | seq items ih =>
    rw [everywhere_seq_iff] at hd
    cases hs with
    | seq each =>
      have hitems : ∀ i ∈ items, i.spread = id i := fun i hi => ih i hi (each i hi) (hd i hi)
      rw [spread, spreadItems_eq_map, List.map_congr_left hitems, List.map_id]
  | map entries _ ih =>
    rw [everywhere_map_iff] at hd
    rw [isSpread_map_iff] at hs
    have hvalues : ∀ e ∈ entries, e.2.spread = e.2 :=
      fun e he => ih e he (hs.2 e he) (hd.2 e he)
    rw [spread, spreadEntries_eq_append hs.1 hvalues [] hd.1, List.nil_append]
  | _ => rfl

theorem spread_keysDiffer (n : Node) : n.spread.Everywhere Mapping.KeysDiffer :=
  keysDiffer_hereditary.spread (fun _ _ => trivial) (fun _ => everywhere_seq_iff.mpr)
    (fun _ => everywhere_of_not_collection) n

/-- Spreading leaves exactly those nodes as they are that are in normal form and
have no key twice in a mapping. -/
theorem spread_eq_self_iff {n : Node} :
    n.spread = n ↔ n.Everywhere Mapping.KeysUndivided ∧ n.Everywhere Mapping.KeysDiffer := by
  rw [← isSpread_iff_everywhere]
  constructor
  · intro h
    rw [← h]
    exact ⟨n.spread_isSpread, n.spread_keysDiffer⟩
  · rintro ⟨hs, hd⟩
    exact spread_of_normal n hs hd

end Node

/-! ## The normal form of configurations -/

namespace Configuration

/-- A configuration whose root is in normal form. -/
def IsNormal (c : Configuration) : Prop := (Node.map c.root).Everywhere Mapping.KeysUndivided

/-- What is spread is in normal form and stays as it is when it is spread again,
a configuration that a document describes is in normal form, and so is what two
such configurations are merged into. -/
theorem spread_normalizes :
    (∀ n : Node, n.spread.Everywhere Mapping.KeysUndivided ∧ n.spread.spread = n.spread) ∧
    (∀ text c, ofYaml text = .ok c → c.IsNormal) ∧
    ∀ a b : Configuration, a.IsNormal → b.IsNormal → (a.merge b).IsNormal := by
  refine ⟨?_, ?_, ?_⟩
  · intro n
    have hnormal := Node.isSpread_iff_everywhere.mp n.spread_isSpread
    exact ⟨hnormal, Node.spread_eq_self_iff.mpr ⟨hnormal, n.spread_keysDiffer⟩⟩
  · intro text c h
    exact Node.isSpread_iff_everywhere.mp (regular_ofYaml h).isSpread
  · intro a b ha hb
    have ha := Node.isSpread_iff_everywhere.mpr ha
    have hb := Node.isSpread_iff_everywhere.mpr hb
    exact Node.isSpread_iff_everywhere.mp (Node.isSpread_hereditary.merge ha hb)

/-- A nested key written out, and an entry for what it leads to. -/
def nestedKeyDocument : String := "'a::b': 'x'"

def besideDocument : String := "'a':\n 'c': 'y'"

/-- Both documents and what they are merged into are in normal form, though a key
of the first is a path. -/
theorem spread_normalizes_merged :
    ∃ a b : Configuration, ofYaml nestedKeyDocument = .ok a ∧ ofYaml besideDocument = .ok b ∧
      a.IsNormal ∧ b.IsNormal ∧ (a.merge b).IsNormal ∧
      (a.merge b).root =
        [(.text "a", .map [(.text "b", .text "x"), (.text "c", .text "y")])] := by
  have ha : ofYaml nestedKeyDocument = .ok ⟨[(.text "a", .map [(.text "b", .text "x")])]⟩ := by
    cbv
  have hb : ofYaml besideDocument = .ok ⟨[(.text "a", .map [(.text "c", .text "y")])]⟩ := by
    cbv
  obtain ⟨-, hdocument, hmerge⟩ := spread_normalizes
  have hna := hdocument _ _ ha
  have hnb := hdocument _ _ hb
  exact ⟨_, _, ha, hb, hna, hnb, hmerge _ _ hna hnb, rfl⟩

end Configuration

end TelemetrySidecar

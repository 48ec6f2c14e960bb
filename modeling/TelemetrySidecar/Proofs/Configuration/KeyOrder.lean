import Mathlib
import TelemetrySidecar.Proofs.Configuration.Commutation
import TelemetrySidecar.Proofs.Configuration.NormalForm
import TelemetrySidecar.Proofs.Configuration.Put

/-
  The order of keys

  A key stands for a path (`Node.keyPath`), and spreading merges the mappings
  along these paths in the order of the entries. Mappings along two paths meet
  only in mappings if the paths part at some key (`Parted.compatible`), that is,
  if neither is a beginning of the other.

  What is proved: nodes that differ in the order of entries at any depth, and in
  which no key path of a mapping is a beginning of another (`PathsApart`), are
  spread into the same tree, and documents that have them describe the same
  configuration (`spread_reordered`). The proof goes by induction on the node:
  the entries of a mapping are brought into the order of the other's, which
  does not change what they are merged into, and are then alike one by one.
-/

namespace TelemetrySidecar

namespace Mapping

/-! ## Mappings along a path -/

/-- The mappings within mappings that hold a value under a path of keys. -/
def ofPath : List Node → Node → Mapping
  | [], _ => []
  | [key], value => [(key, value)]
  | key :: rest, value => [(key, .map (ofPath rest value))]

theorem ofPath_cons {rest : List Node} (hr : rest ≠ []) (key value : Node) :
    ofPath (key :: rest) value = [(key, .map (ofPath rest value))] := by
  cases rest with
  | nil => exact absurd rfl hr
  | cons next rest => rfl

theorem alike_single {k k' v v' : Node} (hk : k.Alike k') (hv : v.Alike v') :
    (Node.map [(k, v)]).Alike (.map [(k', v')]) where
  left := wellFormed_iff.mpr (.single hk.left hv.left)
  right := wellFormed_iff.mpr (.single hk.right hv.right)
  same := Node.same_map_iff.mpr ⟨_, rfl, rfl, by simpa using ⟨hk.same, hv.same⟩⟩

theorem alike_ofPath {p p' : List Node} (h : List.Forall₂ Node.Alike p p') {v v' : Node}
    (hv : v.Alike v') : (Node.map (ofPath p v)).Alike (.map (ofPath p' v')) := by
  induction h with
  | nil => exact .refl (wellFormed_iff.mpr .nil)
  | @cons k k' rest rest' hk hrest ih =>
    by_cases hr : rest = []
    · subst hr
      cases hrest
      exact alike_single hk hv
    · have hr' : rest' ≠ [] := by
        rintro rfl
        cases hrest
        exact hr rfl
      rw [ofPath_cons hr, ofPath_cons hr']
      exact alike_single hk ih

/-- The keys of two paths are the same up to some place and differ there. -/
inductive Parted : List Node → List Node → Prop where
  | here {k k' : Node} (p q : List Node) (apart : k.same k' = false) : Parted (k :: p) (k' :: q)
  | later {p q : List Node} (k k' : Node) (on : Parted p q) : Parted (k :: p) (k' :: q)

theorem Parted.ne_nil {p q : List Node} (h : Parted p q) : p ≠ [] ∧ q ≠ [] := by
  cases h <;> simp

/-- Paths of which neither is a beginning of the other part. -/
theorem parted_of_no_beginning : ∀ {p q : List Node},
    (∀ k ∈ p, ∀ k' ∈ q, k.same k' = true → k = k') → ¬ p <+: q → ¬ q <+: p → Parted p q
  | [], _, _, hpq, _ => absurd List.nil_prefix hpq
  | _ :: _, [], _, _, hqp => absurd List.nil_prefix hqp
  | k :: p, k' :: q, hkeys, hpq, hqp => by
    cases hsame : k.same k' with
    | false => exact .here p q hsame
    | true =>
      obtain rfl := hkeys k List.mem_cons_self k' List.mem_cons_self hsame
      rw [List.cons_prefix_cons] at hpq hqp
      refine .later k k (parted_of_no_beginning (fun a ha b hb => ?_) (fun h => hpq ⟨rfl, h⟩)
        fun h => hqp ⟨rfl, h⟩)
      exact hkeys a (List.mem_cons_of_mem k ha) b (List.mem_cons_of_mem k hb)

theorem same_of_find?_single {n k v u : Node} (h : find? n [(k, v)] = some u) :
    n.same k = true ∧ u = v := by
  obtain ⟨key, hmem, hkey⟩ := mem_of_find? h
  obtain ⟨rfl, rfl⟩ : key = k ∧ u = v := by simpa using hmem
  exact ⟨hkey, rfl⟩

theorem same_of_at?_single {n k v u : Node} {rest : List Node}
    (h : at? (n :: rest) [(k, v)] = some u) : n.same k = true := by
  cases hn : find? n [(k, v)] with
  | none =>
    rw [at?_of_find?_none hn] at h
    cases h
  | some x => exact (same_of_find?_single hn).1

theorem exists_ofPath_cons (k : Node) (p : List Node) (v : Node) :
    ∃ x, ofPath (k :: p) v = [(k, x)] := by
  cases p with
  | nil => exact ⟨v, rfl⟩
  | cons next p => exact ⟨_, rfl⟩

theorem Parted.compatible {p q : List Node} (h : Parted p q) (v w : Node) :
    (ofPath p v).Compatible (ofPath q w) := by
  induction h with
  | @here k k' p q apart =>
    intro path u u' hp hu hu'
    obtain ⟨x, hx⟩ := exists_ofPath_cons k p v
    obtain ⟨x', hx'⟩ := exists_ofPath_cons k' q w
    rw [hx] at hu
    rw [hx'] at hu'
    match path, hp with
    | [], _ => cases hu
    | n :: rest, hp =>
      -- One key cannot find both of two that differ.
      have hn : n.WellFormed := hp n List.mem_cons_self
      have hkn := Node.same_symm hn k (same_of_at?_single hu)
      have hkk' := Node.same_trans k n k' hkn (same_of_at?_single hu')
      rw [apart] at hkk'
      cases hkk'
  | @later p q k k' on ih =>
    intro path u u' hp hu hu'
    rw [ofPath_cons on.ne_nil.1] at hu
    rw [ofPath_cons on.ne_nil.2] at hu'
    match path, hp with
    | [], _ => cases hu
    | [n], _ =>
      obtain ⟨-, rfl⟩ := same_of_find?_single hu
      obtain ⟨-, rfl⟩ := same_of_find?_single hu'
      exact ⟨rfl, rfl⟩
    | n :: next :: rest, hp =>
      obtain ⟨i, hi, hui⟩ := exists_map_of_at?_cons (List.cons_ne_nil next rest) hu
      obtain ⟨i', hi', hui'⟩ := exists_map_of_at?_cons (List.cons_ne_nil next rest) hu'
      obtain ⟨-, ⟨⟩⟩ := same_of_find?_single hi
      obtain ⟨-, ⟨⟩⟩ := same_of_find?_single hi'
      exact ih (next :: rest) u u' (List.forall_mem_cons.mp hp).2 hui hui'

end Mapping

/-! ## The path of a key -/

/-- The keys that a key stands for once it is spread: those it names if the
delimiter stands in it, else the key itself. -/
def Node.keyPath (key : Node) : List Node :=
  match key.text? with
  | some path => if KeyPath.isNested path then (KeyPath.segments path).map .text else [key]
  | none => [key]

/-- A key's path is the key itself, or strings that the key names tags aside. -/
theorem Node.keyPath_cases (key : Node) : key.keyPath = [key] ∨
    ∃ path, key.text? = some path ∧ key.keyPath = (KeyPath.segments path).map .text := by
  unfold keyPath
  split
  · rename_i path htext
    split
    · exact .inr ⟨path, htext, rfl⟩
    · exact .inl rfl
  · exact .inl rfl

theorem Node.alike_keyPath {k k' : Node} (h : k.Alike k') :
    List.Forall₂ Alike k.keyPath k'.keyPath := by
  have hself : List.Forall₂ Alike [k] [k'] := .cons h .nil
  have htexts : ∀ keys : List String, List.Forall₂ Alike (keys.map .text) (keys.map .text) := by
    intro keys
    refine List.forall₂_same.mpr fun n hn => ?_
    obtain ⟨s, -, rfl⟩ := List.mem_map.mp hn
    exact .refl (.text s)
  unfold keyPath
  rw [text?_of_same h.same]
  split
  · split
    · exact htexts _
    · exact hself
  · exact hself

namespace Mapping

/-- A value is put into the empty mapping along the path. -/
theorem put_nil (value : Node) (path : List String) :
    put value path [] = ofPath (path.map .text) value := by
  induction path with
  | nil => rfl
  | cons key rest ih =>
    by_cases hr : rest = []
    · subst hr
      rfl
    · rw [put_cons_nil value key hr, ih, List.map_cons, ofPath_cons (by simpa using hr)]

theorem ofEntry_eq_ofPath (key value : Node) : ofEntry key value = ofPath key.keyPath value := by
  rw [ofEntry, Node.keyPath]
  cases key.text? with
  | none => rfl
  | some path =>
    by_cases hn : KeyPath.isNested path = true
    · simp only [hn, if_true, put_nil]
    · simp only [hn]
      rfl

/-- No key path of the mapping is a beginning of another. -/
def PathsApart (m : Mapping) : Prop :=
  m.Pairwise fun e f => ¬ e.1.keyPath <+: f.1.keyPath ∧ ¬ f.1.keyPath <+: e.1.keyPath

/-- Keys on the paths of two keys that differ are the same only if they are equal. -/
theorem eq_of_mem_keyPath {k k' : Node} (hk : k.WellFormed) (hne : k.same k' = false) :
    ∀ n ∈ k.keyPath, ∀ n' ∈ k'.keyPath, n.same n' = true → n = n' := by
  intro n hn n' hn' hsame
  rcases k.keyPath_cases with hp | ⟨path, -, hp⟩
  · rw [hp, List.mem_singleton] at hn
    subst hn
    rcases k'.keyPath_cases with hp' | ⟨path', -, hp'⟩
    · rw [hp', List.mem_singleton] at hn'
      subst hn'
      rw [hne] at hsame
      cases hsame
    · rw [hp'] at hn'
      obtain ⟨s, -, rfl⟩ := List.mem_map.mp hn'
      exact Node.same_text_iff.mp (Node.same_symm hk _ hsame)
  · rw [hp] at hn
    obtain ⟨s, -, rfl⟩ := List.mem_map.mp hn
    exact (Node.same_text_iff.mp hsame).symm

/-- Entries whose paths are apart are spread into compatible mappings. -/
theorem PathsApart.pairwise_compatible {m : Mapping} (h : m.PathsApart) (hm : m.WellFormed)
    (value : Node × Node → Node) :
    (m.map fun e => ofEntry e.1 (value e)).Pairwise Compatible := by
  rw [List.pairwise_map]
  refine (h.and hm.apart).imp_of_mem fun {e f} he _ hef => ?_
  obtain ⟨⟨hpq, hqp⟩, hne⟩ := hef
  rw [ofEntry_eq_ofPath, ofEntry_eq_ofPath]
  exact (parted_of_no_beginning (eq_of_mem_keyPath (hm.keys e he) hne) hpq hqp).compatible _ _

end Mapping

/-! ## Spreading nodes in another order -/

namespace Node

theorem spread_of_not_collection {n : Node} (h : n.isCollection = false) : n.spread = n := by
  cases n <;> first | rfl | cases h

theorem isCollection_of_same {a b : Node} (h : a.same b = true) :
    a.isCollection = b.isCollection := by
  cases a <;> cases b <;> first | rfl | simp [same] at h

theorem alike_spread_map {m m' : Mapping} (h : (Node.map m).Alike (.map m'))
    (hp : m.PathsApart) (hvalues : ∀ e ∈ m, ∀ n, e.2.Alike n → e.2.spread.Alike n.spread) :
    (Node.map m).spread.Alike (Node.map m').spread := by
  have hm : m.WellFormed := Mapping.wellFormed_iff.mp h.left
  have hspread : ∀ x ∈ m.map (fun e => Mapping.ofEntry e.1 e.2.spread), Mapping.WellFormed x := by
    intro x hx
    obtain ⟨e, he, rfl⟩ := List.mem_map.mp hx
    exact Mapping.wellFormed_ofEntry (hm.keys e he) (hm.values e he).spread
  obtain ⟨sorted, hperm, halike⟩ := Mapping.exists_perm_of_alike h
  rw [spread, spread, spreadEntries_eq_foldl, spreadEntries_eq_foldl]
  refine (Mapping.alike_foldl_merge_of_perm (hperm.map _) hspread (hp.pairwise_compatible hm _)
    .nil).trans ?_
  refine Mapping.alike_foldl_merge ?_ (.refl (Mapping.wellFormed_iff.mpr .nil))
  rw [List.forall₂_map_left_iff, List.forall₂_map_right_iff]
  have hsorted := (List.forall₂_and_left _ _).mpr
    ⟨fun e he => hvalues e (hperm.mem_iff.mpr he), halike⟩
  refine hsorted.imp fun e f hef => ?_
  rw [Mapping.ofEntry_eq_ofPath, Mapping.ofEntry_eq_ofPath]
  exact Mapping.alike_ofPath (alike_keyPath hef.2.1) (hef.1 _ hef.2.2)

/-- Alike nodes of which one has all its key paths apart are spread into alike
nodes. -/
theorem alike_spread (a : Node) : ∀ b : Node, a.Alike b → a.Everywhere Mapping.PathsApart →
    a.spread.Alike b.spread := by
  induction a using induct with
  | seq items ih =>
    intro b h hp
    obtain ⟨items', rfl, -⟩ := same_seq_iff.mp h.same
    rw [everywhere_seq_iff] at hp
    rw [spread, spread, spreadItems_eq_map, spreadItems_eq_map, alike_seq_iff,
      List.forall₂_map_left_iff, List.forall₂_map_right_iff]
    have hitems := (List.forall₂_and_left _ _).mpr
      ⟨fun i hi n hn => ih i hi n hn (hp i hi), alike_seq_iff.mp h⟩
    exact hitems.imp fun i n hin => hin.1 n hin.2
  | map entries _ ih =>
    intro b h hp
    obtain ⟨entries', rfl, -⟩ := same_map_iff.mp h.same
    rw [everywhere_map_iff] at hp
    exact alike_spread_map h hp.1 fun e he n hn => ih e he n hn (hp.2 e he)
  | _ =>
    intro b h _
    rw [spread_of_not_collection rfl, spread_of_not_collection (isCollection_of_same h.same ▸ rfl)]
    exact h

end Node

namespace Configuration

theorem rel_ofNode? {a b : Node} (h : a.spread.Alike b.spread) :
    Option.Rel (fun c d => c.same d = true) (ofNode? a) (ofNode? b) := by
  have hsame := h.same
  unfold ofNode?
  generalize a.spread = x at hsame ⊢
  generalize b.spread = y at hsame ⊢
  cases x with
  | null =>
    cases y with
    | null => exact .some rfl
    | _ => cases hsame
  | map root =>
    obtain ⟨root', rfl, -⟩ := Node.same_map_iff.mp hsame
    exact .some hsame
  | _ =>
    cases y with
    | null | map _ => cases hsame
    | _ => exact .none

/-- Nodes that differ in the order of entries only, and in which no key path is a
beginning of another in one mapping, are spread into the same tree; so documents
that have them describe the same configuration, or both none. -/
theorem spread_reordered {a b : Node} (ha : a.WellFormed) (hb : b.WellFormed)
    (hr : a.Reordered b) (hp : a.Everywhere Mapping.PathsApart) :
    a.spread.same b.spread = true ∧
    ∀ t u, Node.ofYaml t = .ok a → Node.ofYaml u = .ok b →
      (∃ c d, ofYaml t = .ok c ∧ ofYaml u = .ok d ∧ c.same d = true) ∨
      (ofYaml t = .error .notAMapping ∧ ofYaml u = .error .notAMapping) := by
  have hspread : a.spread.Alike b.spread := Node.alike_spread a b ⟨ha, hb, hr.same⟩ hp
  refine ⟨hspread.same, fun t u ht hu => ?_⟩
  have hrel := rel_ofNode? hspread
  rw [ofYaml, ofYaml, ht, hu]
  dsimp only
  generalize ofNode? a = x at hrel ⊢
  generalize ofNode? b = y at hrel ⊢
  cases hrel with
  | none => exact .inr ⟨rfl, rfl⟩
  | some hcd => exact .inl ⟨_, _, rfl, rfl, hcd⟩

/-- A document with two nested keys that share a beginning. -/
def orderedDocument : String := "'a::b':\n 'x': '1'\n 'y': '2'\n'c': '3'\n'a::d': '4'"

/-- The same with all its entries the other way round. -/
def reversedDocument : String := "'a::d': '4'\n'c': '3'\n'a::b':\n 'y': '2'\n 'x': '1'"

def orderedNode : Node :=
  .map [(.text "a::b", .map [(.text "x", .text "1"), (.text "y", .text "2")]),
    (.text "c", .text "3"), (.text "a::d", .text "4")]

def reversedNode : Node := .map [(.text "a::d", .text "4"), (.text "c", .text "3"),
  (.text "a::b", .map [(.text "y", .text "2"), (.text "x", .text "1")])]

theorem ofYaml_orderedDocument : Node.ofYaml orderedDocument = .ok orderedNode := by
  cbv

theorem ofYaml_reversedDocument : Node.ofYaml reversedDocument = .ok reversedNode := by
  cbv

theorem reordered_reversedNode : orderedNode.Reordered reversedNode := by
  have hinner : Node.Reordered (.map [(.text "x", .text "1"), (.text "y", .text "2")])
      (.map [(.text "y", .text "2"), (.text "x", .text "1")]) := .entries (.swap ..)
  refine .trans (.entry [] _ (.refl _) hinner) (.entries ?_)
  exact (List.reverse_perm _).symm

theorem pathsApart_orderedNode : orderedNode.Everywhere Mapping.PathsApart := by
  have hab : (Node.text "a::b").keyPath = [.text "a", .text "b"] := rfl
  have had : (Node.text "a::d").keyPath = [.text "a", .text "d"] := rfl
  have hsingle : ∀ s ∈ ["c", "x", "y"], (Node.text s).keyPath = [.text s] := by
    simp only [List.forall_mem_cons]
    exact ⟨rfl, rfl, rfl, by simp⟩
  simp only [List.forall_mem_cons] at hsingle
  obtain ⟨hc, hx, hy, -⟩ := hsingle
  have hleaf : ∀ s, (Node.text s).Everywhere Mapping.PathsApart :=
    fun s => Node.everywhere_of_not_collection rfl
  simp [orderedNode, Node.everywhere_map_iff, Mapping.PathsApart, hab, had, hc, hx, hy, hleaf]

/-- Both documents are loaded, as the same configuration with its entries in
another order. -/
theorem spread_reordered_reversed :
    orderedNode.Reordered reversedNode ∧ orderedNode.Everywhere Mapping.PathsApart ∧
    ∃ c d, ofYaml orderedDocument = .ok c ∧ ofYaml reversedDocument = .ok d ∧
      c.same d = true ∧
      c.root = [(.text "a", .map [
        (.text "b", .map [(.text "x", .text "1"), (.text "y", .text "2")]),
        (.text "d", .text "4")]), (.text "c", .text "3")] ∧
      d.root = [(.text "a", .map [(.text "d", .text "4"),
        (.text "b", .map [(.text "y", .text "2"), (.text "x", .text "1")])]),
        (.text "c", .text "3")] := by
  refine ⟨reordered_reversedNode, pathsApart_orderedNode, ?_⟩
  obtain ⟨-, hload⟩ := spread_reordered (Node.ofYaml_wellFormed ofYaml_orderedDocument)
    (Node.ofYaml_wellFormed ofYaml_reversedDocument) reordered_reversedNode pathsApart_orderedNode
  have hordered : ofYaml orderedDocument = .ok ⟨[(.text "a", .map [(.text "b",
      .map [(.text "x", .text "1"), (.text "y", .text "2")]), (.text "d", .text "4")]),
      (.text "c", .text "3")]⟩ := by
    rw [ofYaml, ofYaml_orderedDocument]
    rfl
  have hreversed : ofYaml reversedDocument = .ok ⟨[(.text "a", .map [(.text "d", .text "4"),
      (.text "b", .map [(.text "y", .text "2"), (.text "x", .text "1")])]),
      (.text "c", .text "3")]⟩ := by
    rw [ofYaml, ofYaml_reversedDocument]
    rfl
  rcases hload _ _ ofYaml_orderedDocument ofYaml_reversedDocument with
    ⟨c, d, hc, hd, hsame⟩ | ⟨h, -⟩
  · rw [hordered] at hc
    rw [hreversed] at hd
    cases hc
    cases hd
    exact ⟨_, _, hordered, hreversed, hsame, rfl, rfl⟩
  · rw [hordered] at h
    cases h

/-- Where one path is a beginning of another, the order of the entries counts. -/
example :
    (Node.map [(.text "a::b", .null), (.text "a", .null)]).spread = .map [(.text "a", .null)] ∧
    (Node.map [(.text "a", .null), (.text "a::b", .null)]).spread =
      .map [(.text "a", .map [(.text "b", .null)])] :=
  ⟨rfl, rfl⟩

end Configuration

end TelemetrySidecar

import Mathlib
import TelemetrySidecar.Proofs.Configuration.Assignment
import TelemetrySidecar.Proofs.Configuration.NormalForm

/-
  The flat form of a tree

  A tree of mappings can be written as one mapping that has each leaf of the
  tree under the joined keys that lead to it (`flat`). Spreading puts every
  entry of the flat form as mappings within mappings again and merges them in
  order; a leaf goes into what the leaves before it have built (`graft`).

  What is proved: a tree whose keys read back as they were joined (`IsPlain`) is
  what its flat form is spread into, every entry in its place, and the joined
  keys of each leaf lead to it (`spread_flat`). The proof follows the tree: all
  leaves of a branch are grafted under its key as they would be grafted into
  an empty mapping (`foldl_graft_branch`).
-/

namespace TelemetrySidecar

/-- Whether a node is an untagged mapping with entries. -/
def Node.isBranch : Node → Bool
  | .map (_ :: _) => true
  | _ => false

/-- A value that is no branch, with the keys that lead to it. -/
structure Mapping.Leaf where
  path : List String
  value : Node

/-- The leaf as it is seen from one key further up. -/
def Mapping.Leaf.under (key : String) (l : Leaf) : Leaf := ⟨key :: l.path, l.value⟩

/-- The leaf as an entry under its joined keys. -/
def Mapping.Leaf.entry (l : Leaf) : Node × Node := (.text (KeyPath.join l.path), l.value)

mutual

/-- The leaves of a node, from the first to the last. -/
def Node.leaves : Node → List Mapping.Leaf
  | .map (e :: entries) => Mapping.leaves (e :: entries)
  | node => [⟨[], node⟩]

/-- The leaves under the entries of a mapping; those under a key that is no
string are left out. -/
def Mapping.leaves : List (Node × Node) → List Mapping.Leaf
  | [] => []
  | (.text key, value) :: rest => value.leaves.map (Mapping.Leaf.under key) ++ Mapping.leaves rest
  | _ :: rest => Mapping.leaves rest

end

namespace Mapping

/-- The mapping of all leaves under their joined keys. -/
def flat (m : Mapping) : Mapping := (leaves m).map Leaf.entry

/-- A tree of mappings that has a flat form to be read back: all keys are strings
without the delimiter, none that leads to a branch ends with a colon, and
spreading leaves the leaves as they are. -/
inductive IsPlain : Mapping → Prop where
  | nil : IsPlain []
  | leaf {key : String} {value : Node} {rest : Mapping} (undivided : KeyPath.Undivided key)
      (fresh : ∀ e ∈ rest, e.1 ≠ .text key) (ends : value.isBranch = false)
      (spread : value.spread = value) (more : IsPlain rest) :
      IsPlain ((.text key, value) :: rest)
  | branch {key : String} {inner rest : Mapping} (undivided : KeyPath.Undivided key)
      (fresh : ∀ e ∈ rest, e.1 ≠ .text key) (nonempty : inner ≠ [])
      (closed : key.toList.getLast? ≠ some ':') (under : IsPlain inner) (more : IsPlain rest) :
      IsPlain ((.text key, .map inner) :: rest)

/-! ## The leaves of a tree -/

theorem leaves_nil : leaves [] = [] := rfl

theorem leaves_cons_text (key : String) (value : Node) (rest : Mapping) :
    leaves ((.text key, value) :: rest) = value.leaves.map (Leaf.under key) ++ leaves rest := rfl

theorem leaves_of_end {value : Node} (h : value.isBranch = false) :
    value.leaves = [⟨[], value⟩] := by
  cases value with
  | map entries =>
    cases entries with
    | nil => rfl
    | cons e entries => cases h
  | _ => rfl

theorem leaves_of_branch {inner : Mapping} (h : inner ≠ []) :
    (Node.map inner).leaves = leaves inner := by
  cases inner with
  | nil => exact absurd rfl h
  | cons e inner => rfl

theorem leaves_cons_end {key : String} {value : Node} (h : value.isBranch = false)
    (rest : Mapping) : leaves ((.text key, value) :: rest) = ⟨[key], value⟩ :: leaves rest := by
  rw [leaves_cons_text, leaves_of_end h]
  rfl

theorem leaves_cons_branch {key : String} {inner : Mapping} (h : inner ≠ []) (rest : Mapping) :
    leaves ((.text key, .map inner) :: rest) =
      (leaves inner).map (Leaf.under key) ++ leaves rest := by
  rw [leaves_cons_text, leaves_of_branch h]

/-- The first key of each leaf is a key of the mapping. -/
theorem exists_key_of_mem_leaves {m : Mapping} {l : Leaf} (h : l ∈ leaves m) :
    ∃ key path, l.path = key :: path ∧ ∃ e ∈ m, e.1 = .text key := by
  induction m with
  | nil => simp [leaves_nil] at h
  | cons e m ih =>
    have hlater : l ∈ leaves m →
        ∃ key path, l.path = key :: path ∧ ∃ f ∈ e :: m, f.1 = .text key := by
      intro h
      obtain ⟨key, path, hp, f, hf, hk⟩ := ih h
      exact ⟨key, path, hp, f, List.mem_cons_of_mem e hf, hk⟩
    obtain ⟨k, value⟩ := e
    cases k with
    | text key =>
      rw [leaves_cons_text] at h
      rcases List.mem_append.mp h with h | h
      · obtain ⟨inner, -, rfl⟩ := List.mem_map.mp h
        exact ⟨key, inner.path, rfl, _, List.mem_cons_self, rfl⟩
      · exact hlater h
    | _ => exact hlater h

theorem path_ne_nil {m : Mapping} {l : Leaf} (h : l ∈ leaves m) : l.path ≠ [] := by
  obtain ⟨key, path, hp, -⟩ := exists_key_of_mem_leaves h
  simp [hp]

/-- A key that is not in a mapping is not the first key of a leaf of it. -/
theorem head_ne_of_fresh {key : String} {rest : Mapping} (fresh : ∀ e ∈ rest, e.1 ≠ .text key)
    {l : Leaf} (h : l ∈ leaves rest) : l.path.head? ≠ some key := by
  obtain ⟨k, path, hp, e, he, hk⟩ := exists_key_of_mem_leaves h
  rw [hp]
  rintro ⟨⟩
  exact fresh e he hk

namespace IsPlain

variable {m : Mapping}

theorem exists_text (h : m.IsPlain) : ∀ e ∈ m, ∃ s, e.1 = .text s := by
  induction h with
  | nil => simp
  | leaf _ _ _ _ _ ih => exact List.forall_mem_cons.mpr ⟨⟨_, rfl⟩, ih⟩
  | branch _ _ _ _ _ _ _ ih => exact List.forall_mem_cons.mpr ⟨⟨_, rfl⟩, ih⟩

/-- The joined keys of a leaf are read as they were. -/
theorem segments_join (h : m.IsPlain) :
    ∀ l ∈ leaves m, KeyPath.segments (KeyPath.join l.path) = l.path := by
  induction h with
  | nil => simp [leaves_nil]
  | @leaf key value rest undivided _ ends _ _ ih =>
    rw [leaves_cons_end ends, List.forall_mem_cons]
    refine ⟨?_, ih⟩
    rw [KeyPath.join_single, KeyPath.segments_of_plain (KeyPath.undivided_iff.mp undivided)]
  | @branch key inner rest undivided _ nonempty closed _ _ ihu ih =>
    rw [leaves_cons_branch nonempty, List.forall_mem_append, List.forall_mem_map]
    refine ⟨fun l hl => ?_, ih⟩
    rw [Leaf.under, KeyPath.segments_join_cons (path_ne_nil hl) undivided closed, ihu l hl]

theorem spread_leaf (h : m.IsPlain) : ∀ l ∈ leaves m, l.value.spread = l.value := by
  induction h with
  | nil => simp [leaves_nil]
  | leaf _ _ ends spread _ ih =>
    rw [leaves_cons_end ends, List.forall_mem_cons]
    exact ⟨spread, ih⟩
  | branch _ _ nonempty _ _ _ ihu ih =>
    rw [leaves_cons_branch nonempty, List.forall_mem_append, List.forall_mem_map]
    exact ⟨ihu, ih⟩

/-- The keys of a leaf lead to it. -/
theorem reach?_leaf (h : m.IsPlain) : ∀ l ∈ leaves m, m.reach? l.path = some l.value := by
  -- Beyond an entry whose key is new, a leaf is reached as without that entry.
  have hlater : ∀ {key : String} {value : Node} {rest : Mapping},
      (∀ e ∈ rest, e.1 ≠ .text key) → (∀ l ∈ leaves rest, rest.reach? l.path = some l.value) →
      ∀ l ∈ leaves rest, reach? l.path ((.text key, value) :: rest) = some l.value := by
    intro key value rest fresh ih l hl
    obtain ⟨k, path, hp, -⟩ := exists_key_of_mem_leaves hl
    have hk : k ≠ key := by
      rintro rfl
      exact head_ne_of_fresh fresh hl (by rw [hp]; rfl)
    rw [← ih l hl, hp]
    refine reach?_congr ?_ path
    simp [find?_cons, Node.same_texts, hk]
  induction h with
  | nil => simp [leaves_nil]
  | leaf _ fresh ends _ _ ih =>
    rw [leaves_cons_end ends, List.forall_mem_cons]
    refine ⟨?_, hlater fresh ih⟩
    simp [reach?_single, find?_cons, Node.same_texts]
  | @branch key inner rest _ fresh nonempty _ _ _ ihu ih =>
    rw [leaves_cons_branch nonempty, List.forall_mem_append, List.forall_mem_map]
    refine ⟨fun l hl => ?_, hlater fresh ih⟩
    have hroom :
        Node.room? (find? (.text key) ((.text key, .map inner) :: rest)) = some inner := by
      simp [find?_cons, Node.same_texts, Node.room?]
    rw [Leaf.under, reach?_of_room? hroom (path_ne_nil hl)]
    exact ihu l hl

/-- Each leaf has a path of its own. -/
theorem nodup_paths (h : m.IsPlain) : ((leaves m).map Leaf.path).Nodup := by
  induction h with
  | nil => simp [leaves_nil]
  | leaf _ fresh ends _ _ ih =>
    rw [leaves_cons_end ends, List.map_cons, List.nodup_cons]
    refine ⟨fun hm => ?_, ih⟩
    obtain ⟨l, hl, hp⟩ := List.mem_map.mp hm
    exact head_ne_of_fresh fresh hl (by rw [hp]; rfl)
  | @branch key inner rest _ fresh nonempty _ _ _ ihu ih =>
    have hunder : ((leaves inner).map (Leaf.under key)).map Leaf.path =
        ((leaves inner).map Leaf.path).map (key :: ·) := by
      simp [Leaf.under]
    rw [leaves_cons_branch nonempty, List.map_append, List.nodup_append, hunder]
    refine ⟨ihu.map (List.cons_injective), ih, ?_⟩
    intro p hp q hq hpq
    obtain ⟨front, -, rfl⟩ := List.mem_map.mp hp
    obtain ⟨l, hl, rfl⟩ := List.mem_map.mp hq
    exact head_ne_of_fresh fresh hl (by rw [← hpq]; rfl)

/-- The flat form has no key twice. -/
theorem keysDiffer_flat (h : m.IsPlain) : m.flat.KeysDiffer := by
  have hpaths := List.pairwise_map.mp h.nodup_paths
  refine List.pairwise_map.mpr (hpaths.imp_of_mem fun {a b} ha hb hne => ?_)
  have hjoin : KeyPath.join b.path ≠ KeyPath.join a.path := by
    intro heq
    have := congrArg KeyPath.segments heq
    rw [h.segments_join b hb, h.segments_join a ha] at this
    exact hne this.symm
  simpa [Leaf.entry, Node.same_texts] using hjoin

end IsPlain

/-! ## Leaves put back into a tree -/

/-- The mapping with one leaf merged over it. -/
def graft (done : Mapping) (l : Leaf) : Mapping := done.merge (put l.value l.path [])

/-- Entries under joined keys are spread by grafting the leaves they are of. -/
theorem spreadEntries_entries {ls : List Leaf}
    (hpath : ∀ l ∈ ls, KeyPath.segments (KeyPath.join l.path) = l.path)
    (hvalue : ∀ l ∈ ls, l.value.spread = l.value) :
    ∀ done : Mapping, Node.spreadEntries done (ls.map Leaf.entry) = ls.foldl graft done := by
  intro done
  have hentries : (ls.map Leaf.entry).map (fun e => ofEntry e.1 e.2.spread) =
      ls.map fun l => put l.value l.path [] := by
    rw [List.map_map]
    refine List.map_congr_left fun l hl => ?_
    rw [Function.comp_apply, Leaf.entry, hvalue l hl, ofEntry_text, hpath l hl]
  rw [Node.spreadEntries_eq_foldl, hentries, List.foldl_map]
  rfl

theorem nil_merge_single (key value : Node) : merge [] [(key, value)] = [(key, value)] := by
  rw [merge_single, find?_nil, Node.mergeOver_none, insert_nil]

theorem graft_end (done : Mapping) {key : String} (hfresh : done.find? (.text key) = none)
    (value : Node) : done.graft ⟨[key], value⟩ = done.insert (.text key) value := by
  have hput : put value [key] [] = [(.text key, value)] := rfl
  rw [graft, hput, merge_single, hfresh, Node.mergeOver_none]

theorem graft_nil {l : Leaf} (hl : l.path ≠ []) : graft [] l = put l.value l.path [] := by
  obtain ⟨path, value⟩ := l
  match path, hl with
  | [key], _ => exact nil_merge_single ..
  | key :: next :: path, _ =>
    rw [graft, put_cons_nil value key (List.cons_ne_nil next path), nil_merge_single]

section Under

variable {key : String} {ls : List Leaf} (hls : ∀ l ∈ ls, l.path ≠ [])
include hls

/-- Leaves under a key that has a mapping are grafted into that mapping. -/
theorem foldl_graft_under (done : Mapping) : ∀ inner : Mapping,
    (ls.map (Leaf.under key)).foldl graft (done.insert (.text key) (.map inner)) =
      done.insert (.text key) (.map (ls.foldl graft inner)) := by
  induction ls with
  | nil => exact fun _ => rfl
  | cons l ls ih =>
    intro inner
    rw [List.forall_mem_cons] at hls
    have hstep : (done.insert (.text key) (.map inner)).graft (l.under key) =
        done.insert (.text key) (.map (inner.graft l)) := by
      rw [graft, Leaf.under, put_cons_nil l.value key hls.1, merge_single, find?_insert_text,
        if_pos rfl, Node.mergeOver, insert_insert, graft]
    rw [List.map_cons, List.foldl_cons, hstep, ih hls.2, List.foldl_cons]

/-- Leaves under a key that is new are grafted as into an empty mapping. -/
theorem foldl_graft_branch {done : Mapping} (hfresh : done.find? (.text key) = none)
    (hne : ls ≠ []) :
    (ls.map (Leaf.under key)).foldl graft done =
      done.insert (.text key) (.map (ls.foldl graft [])) := by
  cases ls with
  | nil => exact absurd rfl hne
  | cons l ls =>
    rw [List.forall_mem_cons] at hls
    have hfirst : done.graft (l.under key) = done.insert (.text key) (.map (graft [] l)) := by
      rw [graft_nil hls.1, graft, Leaf.under, put_cons_nil l.value key hls.1, merge_single, hfresh,
        Node.mergeOver_none]
    rw [List.map_cons, List.foldl_cons, hfirst, foldl_graft_under hls.2, List.foldl_cons]

end Under

/-- A key that a mapping does not have is still new after another key was put. -/
theorem fresh_insert {done rest : Mapping} (hrest : rest.IsPlain) {key : String}
    (fresh : ∀ e ∈ rest, e.1 ≠ .text key) (hd : ∀ e ∈ rest, done.find? e.1 = none) (value : Node) :
    ∀ e ∈ rest, (done.insert (.text key) value).find? e.1 = none := by
  intro e he
  obtain ⟨s, hs⟩ := hrest.exists_text e he
  have hne : s ≠ key := fun h => fresh e he (by rw [hs, h])
  rw [hs, find?_insert_text, if_neg hne, ← hs]
  exact hd e he

/-- The leaves of a tree, grafted in order into a mapping that has none of its
keys, build the tree at its end. -/
theorem IsPlain.foldl_graft {m : Mapping} (h : m.IsPlain) :
    ∀ done : Mapping, (∀ e ∈ m, done.find? e.1 = none) →
      (leaves m).foldl graft done = done ++ m := by
  induction h with
  | nil =>
    intro done _
    simp [leaves_nil]
  | leaf _ fresh ends _ more ih =>
    intro done hd
    rw [List.forall_mem_cons] at hd
    rw [leaves_cons_end ends, List.foldl_cons, graft_end done hd.1,
      ih _ (fresh_insert more fresh hd.2 _), insert_of_find?_none hd.1, List.append_assoc]
    rfl
  | @branch key inner rest _ fresh nonempty _ _ more ihu ih =>
    intro done hd
    rw [List.forall_mem_cons] at hd
    have hinner : (leaves inner).foldl graft [] = inner := ihu [] (fun _ _ => rfl)
    have hleaves : leaves inner ≠ [] := by
      intro h
      rw [h] at hinner
      exact nonempty hinner.symm
    rw [leaves_cons_branch nonempty, List.foldl_append,
      foldl_graft_branch (fun l hl => path_ne_nil hl) hd.1 hleaves, hinner,
      ih _ (fresh_insert more fresh hd.2 _), insert_of_find?_none hd.1, List.append_assoc]
    rfl

end Mapping

namespace Configuration

/-- The flat form of a tree is a mapping, it is spread into the tree and loaded as
the configuration it is, and the joined keys of each leaf lead to it there. -/
theorem spread_flat {m : Mapping} (h : m.IsPlain) :
    m.flat.KeysDiffer ∧ (Node.map m.flat).spread = .map m ∧
    ofNode? (.map m.flat) = some ⟨m⟩ ∧
    ∀ l ∈ Mapping.leaves m, get? ⟨m⟩ (KeyPath.join l.path) = some l.value := by
  have hspread : (Node.map m.flat).spread = .map m := by
    rw [Node.spread, Mapping.flat, Mapping.spreadEntries_entries h.segments_join h.spread_leaf,
      h.foldl_graft [] (fun _ _ => rfl), List.nil_append]
  refine ⟨h.keysDiffer_flat, hspread, ?_, ?_⟩
  · rw [ofNode?, hspread]
  · intro l hl
    rw [get?, h.segments_join l hl]
    exact h.reach?_leaf l hl

/-- A tree with an empty key, keys that begin and end with a colon, an empty
mapping and a tagged one. -/
def colonTree : Mapping :=
  [(.text "a", .map [(.text "", .map [(.text ":b", .int 1)]), (.text "c:", .map [])]),
    (.text "d:", .tagged "t" (.map [(.text "x::y", .null)]))]

theorem colonTree_isPlain : colonTree.IsPlain := by
  have hundivided : ∀ key ∈ ["a", "", ":b", "c:", "d:"], KeyPath.Undivided key := by
    simp only [KeyPath.undivided_iff]
    decide
  simp only [List.forall_mem_cons] at hundivided
  obtain ⟨ha, hempty, hb, hc, hd, -⟩ := hundivided
  refine .branch ha ?_ (by simp) (by decide) ?_ ?_
  · simp
  · refine .branch hempty (by simp) (by simp) (by decide) ?_ ?_
    · exact .leaf hb (by simp) rfl rfl .nil
    · exact .leaf hc (by simp) rfl rfl .nil
  · exact .leaf hd (by simp) rfl rfl .nil

/-- Its flat form, and what becomes of it. -/
theorem spread_flat_colonTree :
    colonTree.IsPlain ∧
    colonTree.flat = [(.text "a:::::b", .int 1), (.text "a::c:", .map []),
      (.text "d:", .tagged "t" (.map [(.text "x::y", .null)]))] ∧
    ofNode? (.map colonTree.flat) = some ⟨colonTree⟩ ∧
    get? ⟨colonTree⟩ "a:::::b" = some (.int 1) := by
  have hflat : colonTree.flat = [(.text "a:::::b", .int 1), (.text "a::c:", .map []),
      (.text "d:", .tagged "t" (.map [(.text "x::y", .null)]))] := by
    cbv
  obtain ⟨-, -, hloaded, hget⟩ := spread_flat colonTree_isPlain
  refine ⟨colonTree_isPlain, hflat, hloaded, ?_⟩
  exact hget ⟨["a", "", ":b"], .int 1⟩ List.mem_cons_self

end Configuration

end TelemetrySidecar

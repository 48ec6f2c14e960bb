import Mathlib
import TelemetrySidecar.Proofs.Configuration.Put
import TelemetrySidecar.Proofs.Configuration.Spread

/-
  Values set under paths

  A path is descended key by key, through tags when a value is looked up and
  only through untagged mappings when one is put. The two go the same way until
  a tagged mapping stands on it; such a mapping bars the path (`Barred`), and
  setting a value beyond it does nothing.

  What is proved:
    1. `get?_set_iff`: a value that was set under a path is found there, unless
       the path is barred, and then nothing is changed. So the value is found
       exactly if the path is open or led to this value before. In
       `taggedDocument` a path is barred.
    2. `set_changes_no_other`: a path of which neither is the beginning of the
       other leads where it led before; the keys at the root stay in their
       places; and of two values set under one path the first leaves no trace.
-/

namespace TelemetrySidecar

namespace Mapping

variable {m inner : Mapping} {key : String} {rest : List String}

/-! ## Descending by one key -/

theorem reach?_empty (path : List String) : reach? path [] = none := by
  cases path with
  | nil => rfl
  | cons key rest => cases rest <;> rfl

theorem reach?_congr {a b : Mapping} (h : a.find? (.text key) = b.find? (.text key))
    (rest : List String) : a.reach? (key :: rest) = b.reach? (key :: rest) := by
  by_cases hr : rest = []
  · subst hr
    exact h
  · rw [reach?_cons hr, reach?_cons hr, h]

/-- Looking up goes on in the mapping in which putting goes on. -/
theorem reach?_of_room? (h : Node.room? (m.find? (.text key)) = some inner) (hr : rest ≠ []) :
    m.reach? (key :: rest) = inner.reach? rest := by
  rw [reach?_cons hr]
  cases hk : m.find? (.text key) with
  | none =>
    rw [hk] at h
    cases h
    exact (reach?_empty rest).symm
  | some n =>
    rw [hk] at h
    cases n with
    | map entries =>
      cases h
      rfl
    | tagged tag value =>
      have he : (Node.tagged tag value).entries? = value.entries? := rfl
      cases hv : value.entries? with
      | none =>
        obtain rfl : inner = [] := by simpa [Node.room?, he, hv] using h.symm
        simp [he, hv, reach?_empty]
      | some entries => simp [Node.room?, he, hv] at h
    | _ =>
      cases h
      exact (reach?_empty rest).symm

theorem put_of_room? (h : Node.room? (m.find? (.text key)) = some inner) (hr : rest ≠ [])
    (value : Node) :
    m.put value (key :: rest) = m.insert (.text key) (.map (inner.put value rest)) := by
  rw [put_cons hr, h]

/-- What putting under a path does: the value goes under the last key; under an
earlier one it goes on in the mapping there, or ends where there is no room. -/
theorem put_cases (value : Node) (key : String) (rest : List String) (m : Mapping) :
    (rest = [] ∧ m.put value (key :: rest) = m.insert (.text key) value) ∨
    (rest ≠ [] ∧ Node.room? (m.find? (.text key)) = none ∧ m.put value (key :: rest) = m) ∨
    (rest ≠ [] ∧ ∃ inner, Node.room? (m.find? (.text key)) = some inner ∧
      m.put value (key :: rest) = m.insert (.text key) (.map (inner.put value rest))) := by
  by_cases hr : rest = []
  · subst hr
    exact .inl ⟨rfl, put_single value key m⟩
  · cases hroom : Node.room? (m.find? (.text key)) with
    | none => exact .inr (.inl ⟨hr, rfl, by rw [put_cons hr, hroom]⟩)
    | some inner => exact .inr (.inr ⟨hr, inner, rfl, put_of_room? hroom hr value⟩)

/-- The mapping just put under a key has room. -/
theorem room?_insert (key : String) (inner m : Mapping) :
    Node.room? ((m.insert (.text key) (.map inner)).find? (.text key)) = some inner := by
  rw [find?_insert_text, if_pos rfl]
  rfl

/-! ## What bars a path -/

/-- A tagged mapping stands on the way of a path: a proper beginning of the path
leads to it. -/
def Barred (m : Mapping) (path : List String) : Prop :=
  ∃ front, front <+: path ∧ front ≠ path ∧ IsTaggedMapping (m.reach? front)

theorem not_isTaggedMapping_none : ¬ IsTaggedMapping none := by
  rintro ⟨tag, value, h, -⟩
  cases h

theorem not_barred_single (key : String) (m : Mapping) : ¬ m.Barred [key] := by
  rintro ⟨front, hp, hne, ht⟩
  cases front with
  | nil => exact not_isTaggedMapping_none ht
  | cons k front =>
    obtain ⟨rfl, hfront⟩ := List.cons_prefix_cons.mp hp
    obtain rfl := List.prefix_nil.mp hfront
    exact hne rfl

theorem not_barred_empty (path : List String) : ¬ Barred [] path := by
  rintro ⟨front, -, -, ht⟩
  rw [reach?_empty] at ht
  exact not_isTaggedMapping_none ht

theorem barred_of_room?_none (h : Node.room? (m.find? (.text key)) = none) (hr : rest ≠ []) :
    m.Barred (key :: rest) :=
  ⟨[key], by simp, by simpa using Ne.symm hr, Node.room?_eq_none_iff.mp h⟩

/-- Beyond a key with room for more, a path is barred by what bars the rest of it. -/
theorem barred_cons_iff (h : Node.room? (m.find? (.text key)) = some inner) :
    m.Barred (key :: rest) ↔ inner.Barred rest := by
  constructor
  · rintro ⟨front, hp, hne, ht⟩
    cases front with
    | nil => exact absurd ht not_isTaggedMapping_none
    | cons k front =>
      obtain ⟨rfl, hfront⟩ := List.cons_prefix_cons.mp hp
      by_cases hf : front = []
      · -- The tagged mapping would stand under the key itself, where there is room.
        subst hf
        have hnone : Node.room? (m.find? (.text k)) = none := Node.room?_eq_none_iff.mpr ht
        rw [h] at hnone
        cases hnone
      · rw [reach?_of_room? h hf] at ht
        exact ⟨front, hfront, fun he => hne (by rw [he]), ht⟩
  · rintro ⟨front, hp, hne, ht⟩
    have hf : front ≠ [] := by
      rintro rfl
      exact not_isTaggedMapping_none ht
    refine ⟨key :: front, List.cons_prefix_cons.mpr ⟨rfl, hp⟩, by simpa using hne, ?_⟩
    rw [reach?_of_room? h hf]
    exact ht

/-- A path that is barred further on has a mapping under its first key. -/
theorem find?_of_barred (h : Node.room? (m.find? (.text key)) = some inner)
    (hb : inner.Barred rest) : m.find? (.text key) = some (.map inner) := by
  unfold Node.room? at h
  split at h
  · rename_i hk
    cases h
    exact hk
  · split at h
    · cases h
    · cases h
      exact absurd hb (not_barred_empty rest)
  · cases h
    exact absurd hb (not_barred_empty rest)

/-! ## The value under the path -/

/-- Beyond a tagged mapping nothing is put. -/
theorem put_of_barred (value : Node) {path : List String} :
    ∀ {m : Mapping}, m.Barred path → m.put value path = m := by
  induction path with
  | nil => exact fun _ => rfl
  | cons key rest ih =>
    intro m hb
    rcases put_cases value key rest m with ⟨rfl, -⟩ | ⟨-, -, hput⟩ | ⟨-, inner, hroom, hput⟩
    · exact absurd hb (not_barred_single key m)
    · exact hput
    · have hinner := (barred_cons_iff hroom).mp hb
      rw [hput, ih hinner]
      exact insert_of_find? (find?_of_barred hroom hinner)

/-- A value put under an open path is found under it. -/
theorem reach?_put (value : Node) {path : List String} (hp : path ≠ []) :
    ∀ {m : Mapping}, ¬ m.Barred path → (m.put value path).reach? path = some value := by
  induction path with
  | nil => exact absurd rfl hp
  | cons key rest ih =>
    intro m hb
    rcases put_cases value key rest m with ⟨rfl, hput⟩ | ⟨hr, hroom, -⟩ | ⟨hr, inner, hroom, hput⟩
    · rw [hput, reach?_single, find?_insert_text, if_pos rfl]
    · exact absurd (barred_of_room?_none hroom hr) hb
    · rw [hput, reach?_of_room? (room?_insert ..) hr]
      exact ih hr fun h => hb ((barred_cons_iff hroom).mpr h)

/-! ## What is left alone -/

/-- Paths of which neither is the beginning of the other part at some key; what
is put under the one does not touch what stands under the other. -/
theorem reach?_put_of_apart (value : Node) {path : List String} :
    ∀ {other : List String} {m : Mapping}, ¬ path <+: other → ¬ other <+: path →
      (m.put value path).reach? other = m.reach? other := by
  induction path with
  | nil => exact fun h _ => absurd List.nil_prefix h
  | cons key rest ih =>
    intro other m hpo hop
    cases other with
    | nil => exact absurd List.nil_prefix hop
    | cons k others =>
      by_cases hk : k = key
      · -- The paths share their first key and part further on.
        subst hk
        rw [List.cons_prefix_cons] at hpo hop
        have hrest : ¬ rest <+: others := fun h => hpo ⟨rfl, h⟩
        have hothers : ¬ others <+: rest := fun h => hop ⟨rfl, h⟩
        have ho : others ≠ [] := by
          rintro rfl
          exact hothers List.nil_prefix
        rcases put_cases value k rest m with ⟨rfl, -⟩ | ⟨-, -, hput⟩ | ⟨-, inner, hroom, hput⟩
        · exact absurd List.nil_prefix hrest
        · rw [hput]
        · rw [hput, reach?_of_room? (room?_insert ..) ho, reach?_of_room? hroom ho]
          exact ih hrest hothers
      · exact reach?_congr (find?_put_of_ne hk value rest m) others

/-- Of two values put under one path the first leaves no trace. -/
theorem put_put (first value : Node) {path : List String} :
    ∀ m : Mapping, (m.put first path).put value path = m.put value path := by
  induction path with
  | nil => exact fun _ => rfl
  | cons key rest ih =>
    intro m
    rcases put_cases first key rest m with ⟨rfl, hput⟩ | ⟨-, -, hput⟩ | ⟨hr, inner, hroom, hput⟩
    · rw [hput, put_single, put_single, insert_insert]
    · rw [hput]
    · rw [hput, put_of_room? (room?_insert ..) hr, insert_insert, ih inner,
        put_of_room? hroom hr]

/-- The keys of the mapping stay where they were. -/
theorem keys_put (value : Node) (path : List String) (m : Mapping) :
    m.map Prod.fst <+: (m.put value path).map Prod.fst := by
  cases path with
  | nil => exact List.prefix_rfl
  | cons key rest =>
    rcases put_cases value key rest m with ⟨-, hput⟩ | ⟨-, -, hput⟩ | ⟨-, inner, -, hput⟩ <;>
      rw [hput]
    · exact keys_insert ..
    · exact keys_insert ..

end Mapping

namespace Configuration

theorem segments_ne_nil (path : String) : KeyPath.segments path ≠ [] := by
  simp [KeyPath.segments, KeyPath.keys_ne_nil]

/-- What was set under a path is found there if no tagged mapping stands on the
way; if one does, nothing is changed. -/
theorem get?_set_iff (c : Configuration) (path : String) (value : Node) :
    ((c.set path value).get? path = some value ↔
      ¬ c.root.Barred (KeyPath.segments path) ∨ c.get? path = some value) ∧
    (c.root.Barred (KeyPath.segments path) → c.set path value = c) := by
  have hbarred : c.root.Barred (KeyPath.segments path) → c.set path value = c := by
    intro hb
    rw [set, Mapping.put_of_barred value hb]
  refine ⟨?_, hbarred⟩
  by_cases hb : c.root.Barred (KeyPath.segments path)
  · rw [hbarred hb]
    simp [hb]
  · have hfound : (c.set path value).get? path = some value :=
      Mapping.reach?_put value (segments_ne_nil path) hb
    simp [hb, hfound]

/-- A document with a mapping under a tag. -/
def taggedDocument : String := "'a': !t\n 'x': 'y'\n"

def taggedConfiguration : Configuration :=
  ⟨[(.text "a", .tagged "t" (.map [(.text "x", .text "y")]))]⟩

theorem ofYaml_taggedDocument : ofYaml taggedDocument = .ok taggedConfiguration := by
  cbv

theorem segments_beyond_tag : KeyPath.segments "a::x" = ["a", "x"] := by decide

/-- The value that was set is not found; the one that stood there is. -/
theorem set_lost_beyond_tag :
    ofYaml taggedDocument = .ok taggedConfiguration ∧
    (taggedConfiguration.set "a::x" (.text "z")).get? "a::x" = some (.text "y") ∧
    (taggedConfiguration.set "a::x" (.text "z")).get? "a::x" ≠ some (.text "z") := by
  have hstays : (taggedConfiguration.set "a::x" (.text "z")).get? "a::x" = some (.text "y") := by
    rw [get?, set, segments_beyond_tag]
    rfl
  exact ⟨ofYaml_taggedDocument, hstays, by simp [hstays]⟩

/-- The general rule in this configuration: the path through the tag is barred,
one beside it is open. -/
theorem get?_set_iff_tagged :
    taggedConfiguration.root.Barred (KeyPath.segments "a::x") ∧
    taggedConfiguration.set "a::x" (.text "z") = taggedConfiguration ∧
    (taggedConfiguration.set "b" (.text "z")).get? "b" = some (.text "z") := by
  have hbarred : taggedConfiguration.root.Barred (KeyPath.segments "a::x") := by
    rw [segments_beyond_tag]
    exact ⟨["a"], by simp, by simp, "t", .map [(.text "x", .text "y")], rfl, rfl⟩
  have hsingle : KeyPath.segments "b" = ["b"] := by decide
  refine ⟨hbarred, (get?_set_iff taggedConfiguration "a::x" (.text "z")).2 hbarred, ?_⟩
  refine (get?_set_iff taggedConfiguration "b" (.text "z")).1.mpr (.inl ?_)
  rw [hsingle]
  exact Mapping.not_barred_single "b" _

/-- To set a value under a path changes no other path, not even where a value on
the way gives place to a mapping; it moves no key at the root, and what was set
under the path before it leaves no trace. -/
theorem set_changes_no_other (c : Configuration) (path : String) (value : Node) :
    (∀ other, ¬ KeyPath.segments path <+: KeyPath.segments other →
      ¬ KeyPath.segments other <+: KeyPath.segments path →
      (c.set path value).get? other = c.get? other) ∧
    c.root.map Prod.fst <+: (c.set path value).root.map Prod.fst ∧
    ∀ first, (c.set path first).set path value = c.set path value := by
  refine ⟨?_, Mapping.keys_put value _ c.root, ?_⟩
  · intro other hpo hop
    exact Mapping.reach?_put_of_apart value hpo hop
  · intro first
    simp only [set, Mapping.put_put]

/-- A configuration in which a number stands on the way. -/
def scalarConfiguration : Configuration := ⟨[(.text "a", .int 5), (.text "b", .bool true)]⟩

/-- The number gives place to a mapping, and the path beside it leads nowhere as
before. -/
theorem set_changes_no_other_scalar :
    ¬ KeyPath.segments "a::x" <+: KeyPath.segments "a::y" ∧
    ¬ KeyPath.segments "a::y" <+: KeyPath.segments "a::x" ∧
    (scalarConfiguration.set "a::x" .null).get? "a::x" = some .null ∧
    (scalarConfiguration.set "a::x" .null).get? "a::y" = scalarConfiguration.get? "a::y" := by
  have hxy : ¬ KeyPath.segments "a::x" <+: KeyPath.segments "a::y" := by decide
  have hyx : ¬ KeyPath.segments "a::y" <+: KeyPath.segments "a::x" := by decide
  have hput : (scalarConfiguration.set "a::x" .null).get? "a::x" = some .null := by
    rw [get?, set, segments_beyond_tag]
    rfl
  exact ⟨hxy, hyx, hput, (set_changes_no_other scalarConfiguration "a::x" .null).1 "a::y" hxy hyx⟩

end Configuration

end TelemetrySidecar

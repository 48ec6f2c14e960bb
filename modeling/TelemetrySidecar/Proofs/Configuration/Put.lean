import TelemetrySidecar.Configuration.Basic
import TelemetrySidecar.Proofs.Node.Mapping

/-
  Putting a value under a path

  Putting goes on in the mapping that stands under the path's first key. If
  nothing stands there, or no mapping, it goes on in an empty one; a mapping
  under a tag has no room for anything (`Node.room?`). Only what stands under
  the first key changes (`find?_put_of_ne`, `find?_put_self`).
-/

namespace TelemetrySidecar

/-- The mapping that putting under further keys goes on in, by what stands under
the first one. -/
def Node.room? : Option Node → Option Mapping
  | some (.map inner) => some inner
  | some node => if node.entries?.isSome then none else some []
  | none => some []

/-- Whether a field is a mapping under a tag. -/
def Mapping.IsTaggedMapping (field : Option Node) : Prop :=
  ∃ tag value, field = some (.tagged tag value) ∧ value.entries?.isSome

theorem Node.room?_eq_none_iff {o : Option Node} :
    room? o = none ↔ Mapping.IsTaggedMapping o := by
  cases o with
  | none => simp [room?, Mapping.IsTaggedMapping]
  | some n =>
    cases n with
    | tagged tag value =>
      have he : (Node.tagged tag value).entries? = value.entries? := rfl
      constructor
      · intro h
        refine ⟨tag, value, rfl, ?_⟩
        cases hs : value.entries?.isSome
        · simp [room?, he, hs] at h
        · rfl
      · rintro ⟨_, _, heq, hs⟩
        cases heq
        simp [room?, he, hs]
    | _ => simp [room?, entries?, untagged, Mapping.IsTaggedMapping]

namespace Mapping

theorem reach?_single (key : String) (m : Mapping) : m.reach? [key] = m.find? (.text key) := rfl

theorem reach?_cons {key : String} {rest : List String} (hr : rest ≠ []) (m : Mapping) :
    m.reach? (key :: rest) = ((m.find? (.text key)).bind Node.entries?).bind (reach? rest) := by
  cases rest with
  | nil => exact absurd rfl hr
  | cons next rest => rfl

theorem put_single (value : Node) (key : String) (m : Mapping) :
    m.put value [key] = m.insert (.text key) value := rfl

theorem put_cons {key : String} {rest : List String} (hr : rest ≠ []) (value : Node)
    (m : Mapping) :
    m.put value (key :: rest) = match Node.room? (m.find? (.text key)) with
      | some inner => m.insert (.text key) (.map (inner.put value rest))
      | none => m := by
  cases rest with
  | nil => exact absurd rfl hr
  | cons next rest =>
    rw [put.eq_def]
    dsimp only
    cases hk : m.find? (.text key) with
    | none => rfl
    | some n =>
      cases n with
      | map inner => rfl
      | tagged tag value =>
        simp only [Node.room?]
        split <;> rfl
      | _ => rfl

/-- A path of more keys is put into an empty mapping as one entry. -/
theorem put_cons_nil (value : Node) (key : String) {path : List String} (hp : path ≠ []) :
    put value (key :: path) [] = [(.text key, .map (put value path []))] :=
  put_cons hp value []

theorem find?_put_of_ne {s key : String} (h : s ≠ key) (value : Node) (rest : List String)
    (m : Mapping) : (m.put value (key :: rest)).find? (.text s) = m.find? (.text s) := by
  by_cases hr : rest = []
  · subst hr
    rw [put_single, find?_insert_text, if_neg h]
  · rw [put_cons hr]
    split
    · rw [find?_insert_text, if_neg h]
    · rfl

theorem find?_put_self {key : String} {rest : List String} (hr : rest ≠ []) (value : Node)
    (m : Mapping) :
    (m.put value (key :: rest)).find? (.text key) =
      match Node.room? (m.find? (.text key)) with
      | some inner => some (.map (inner.put value rest))
      | none => m.find? (.text key) := by
  rw [put_cons hr]
  cases Node.room? (m.find? (.text key)) with
  | none => rfl
  | some inner => simp [find?_insert_text]

end Mapping

end TelemetrySidecar

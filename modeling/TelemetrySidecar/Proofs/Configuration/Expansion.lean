import TelemetrySidecar.Configuration.Reference
import TelemetrySidecar.Proofs.Configuration.Spread

/-
  Trees with their references put in

  Expansion changes strings and nothing else: sequences and mappings are
  rebuilt item by item and value by value, and no key is touched
  (`expandItems_eq_map`, `expandEntries_eq_map`). So what is spread stays spread
  (`IsSpread.expand`).
-/

namespace TelemetrySidecar.Node

variable (lookup : List Char → Option (List Char))

theorem expand_map (entries : List (Node × Node)) :
    (Node.map entries).expand lookup = .map (expandEntries lookup entries) := rfl

theorem expand_seq (items : List Node) :
    (Node.seq items).expand lookup = .seq (expandItems lookup items) := rfl

theorem expandItems_cons (item : Node) (items : List Node) :
    expandItems lookup (item :: items) = item.expand lookup :: expandItems lookup items := rfl

theorem expandEntries_cons (e : Node × Node) (entries : List (Node × Node)) :
    expandEntries lookup (e :: entries) =
      (e.1, e.2.expand lookup) :: expandEntries lookup entries := rfl

theorem expandItems_eq_map (items : List Node) :
    expandItems lookup items = items.map (expand lookup) := by
  induction items with
  | nil => rfl
  | cons item items ih => rw [expandItems_cons, ih, List.map_cons]

theorem expandEntries_eq_map (entries : List (Node × Node)) :
    expandEntries lookup entries = entries.map fun e => (e.1, e.2.expand lookup) := by
  induction entries with
  | nil => rfl
  | cons e entries ih => rw [expandEntries_cons, ih, List.map_cons]

theorem IsSpread.expand {n : Node} (h : n.IsSpread) : (n.expand lookup).IsSpread := by
  induction h with
  | null => exact .null
  | bool b => exact .bool b
  | int i => exact .int i
  | float x => exact .float x
  | text s => exact .text _
  | seq _ ih =>
    rw [expand_seq, expandItems_eq_map]
    refine .seq fun i hi => ?_
    obtain ⟨item, hitem, rfl⟩ := List.mem_map.mp hi
    exact ih item hitem
  | map keys _ ih =>
    rw [expand_map, expandEntries_eq_map]
    refine .map (fun e he => ?_) (fun e he => ?_) <;> obtain ⟨f, hf, rfl⟩ := List.mem_map.mp he
    · exact keys f hf
    · exact ih f hf
  | tagged tag value => exact .tagged tag value

end TelemetrySidecar.Node

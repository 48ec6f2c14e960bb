import TelemetrySidecar.Configuration.Basic

/-
  Spreading nested keys

  A key that is itself a path stands for mappings within mappings. Spreading
  writes them out, in every mapping that is not under a tag, and merges what
  falls together in the order it was written.
-/

namespace TelemetrySidecar

/-- The mapping of one entry, its key spread. -/
def Mapping.ofEntry (key value : Node) : Mapping :=
  match key.text? with
  | some path => if KeyPath.isNested path then Mapping.put value (KeyPath.segments path) []
      else [(key, value)]
  | none => [(key, value)]

namespace Node

mutual

/-- The node with all its keys spread. -/
def spread : Node → Node
  | map entries => map (spreadEntries [] entries)
  | seq items => seq (spreadItems items)
  | node => node

def spreadItems : List Node → List Node
  | [] => []
  | item :: rest => item.spread :: spreadItems rest

/-- Spread entries merged one by one into those done before. -/
def spreadEntries (done : Mapping) : List (Node × Node) → Mapping
  | [] => done
  | (key, value) :: rest => spreadEntries (done.merge (Mapping.ofEntry key value.spread)) rest

end

end Node

end TelemetrySidecar

import TelemetrySidecar.Configuration.Spread
import TelemetrySidecar.Yaml.Document

/-
  Configurations from documents
-/

namespace TelemetrySidecar

/-- Why a text is not a configuration. -/
inductive DocumentFault where
  | yaml (fault : Yaml.Fault)
  | notAMapping
  deriving DecidableEq, Repr

namespace Configuration

/-- The configuration a node is, its keys spread; null is the empty one. -/
def ofNode? (node : Node) : Option Configuration :=
  match node.spread with
  | .null => some empty
  | .map root => some ⟨root⟩
  | _ => none

/-- The configuration a document describes. -/
def ofYaml (text : String) : Except DocumentFault Configuration :=
  match Node.ofYaml text with
  | .error fault => .error (.yaml fault)
  | .ok node =>
    match ofNode? node with
    | some c => .ok c
    | none => .error .notAMapping

end Configuration

end TelemetrySidecar

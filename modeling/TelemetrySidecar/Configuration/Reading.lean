import TelemetrySidecar.Configuration.Basic

/-
  Values read as types

  A value of a configuration is read as what a consumer expects. Scalars are
  read through their tags; nothing is converted from one kind into another,
  but null is an empty collection.
-/

namespace TelemetrySidecar.Node

/-- The integer a node is, if it lies within the bounds. -/
def int? (low high : Int) (node : Node) : Option Int :=
  match node.untagged with
  | int i => if low ≤ i ∧ i ≤ high then some i else none
  | _ => none

/-- A port number. -/
def port? (node : Node) : Option Int := node.int? 0 0xffff

def bool? (node : Node) : Option Bool :=
  match node.untagged with
  | bool b => some b
  | _ => none

/-- The strings of a sequence of strings. -/
def texts? (node : Node) : Option (List String) :=
  match node.untagged with
  | null => some []
  | seq items => items.mapM text?
  | _ => none

/-- The entries of a mapping of strings to strings. -/
def textEntries? (node : Node) : Option (List (String × String)) :=
  match node.untagged with
  | null => some []
  | map entries => entries.mapM fun e => do return (← e.1.text?, ← e.2.text?)
  | _ => none

/-- A value or, for null without a tag, no value. -/
def optional? {α : Type} (read : Node → Option α) : Node → Option (Option α)
  | null => some none
  | node => (read node).map some

/-- The value of one field of a record whose other fields do not matter: absent
fields give `none`, a field given twice is no record. -/
def field? (name : String) (node : Node) : Option (Option Node) := do
  let entries ← match node.untagged with
    | null => some []
    | map entries => some entries
    | _ => none
  let keys ← entries.mapM fun e => e.1.text?
  match (keys.zip entries).filter (·.1 == name) with
  | [] => some none
  | [(_, e)] => some (some e.2)
  | _ => none

end TelemetrySidecar.Node

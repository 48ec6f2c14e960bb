import TelemetrySidecar.Configuration.KeyPath
import TelemetrySidecar.Node.Basic

/-
  Configurations

  A configuration is a mapping at the root of a document. Values are looked up
  and put under paths of string keys; two configurations are merged key by key,
  the later one deciding wherever not both hold a mapping.
-/

namespace TelemetrySidecar

namespace Mapping

/-- The value under a path of keys. Below the root a mapping counts through its
tags. -/
def reach? : List String → Mapping → Option Node
  | [], _ => none
  | [key], entries => entries.find? (.text key)
  | key :: rest, entries => ((entries.find? (.text key)).bind Node.entries?).bind (reach? rest)

/-- The mapping with a value put under a path of keys. What is no mapping on the
way gives place to one; a tagged mapping on the way is left as it is, and so
nothing is put. -/
def put (value : Node) : List String → Mapping → Mapping
  | [], entries => entries
  | [key], entries => entries.insert (.text key) value
  | key :: rest, entries =>
    match entries.find? (.text key) with
    | some (.map inner) => entries.insert (.text key) (.map (put value rest inner))
    | some node =>
      if node.entries?.isSome then entries
      else entries.insert (.text key) (.map (put value rest []))
    | none => entries.insert (.text key) (.map (put value rest []))

end Mapping

mutual

/-- What stands under a key that had the value `old` after a merge: two mappings
become one, else the new value stands. -/
def Node.mergeOver (old : Option Node) : Node → Node
  | .map incoming =>
    match old with
    | some (.map existing) => .map (Mapping.merge existing incoming)
    | _ => .map incoming
  | node => node

/-- The entries of the second mapping put over those of the first. -/
def Mapping.merge (target : Mapping) : List (Node × Node) → Mapping
  | [] => target
  | (key, value) :: rest =>
    Mapping.merge (target.insert key (Node.mergeOver (target.find? key) value)) rest

end

/-- A configuration: the mapping at its root. -/
structure Configuration where
  root : Mapping := []

namespace Configuration

/-- The configuration without any key. -/
def empty : Configuration := {}

def isEmpty (c : Configuration) : Bool := c.root.isEmpty

/-- Whether two configurations are the same, whatever the order of their keys. -/
def same (a b : Configuration) : Bool := Node.same (.map a.root) (.map b.root)

/-- The value under a path. -/
def get? (c : Configuration) (path : String) : Option Node := c.root.reach? (KeyPath.segments path)

/-- The configuration with a value put under a path. -/
def set (c : Configuration) (path : String) (value : Node) : Configuration :=
  ⟨c.root.put value (KeyPath.segments path)⟩

/-- The second configuration merged over the first. -/
def merge (a b : Configuration) : Configuration := ⟨a.root.merge b.root⟩

end Configuration

end TelemetrySidecar

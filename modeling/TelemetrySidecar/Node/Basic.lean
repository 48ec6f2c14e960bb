import TelemetrySidecar.Binary64.Basic

/-
  Configuration nodes

  A node is a value of a configuration document: a scalar, a sequence, a
  mapping in the order its entries were given, or a tagged value. Keys are
  nodes of any kind. Two nodes are the same whatever the order of their
  mappings (`Node.same`); a mapping holds no two entries of the same key, and
  `insert` keeps it so.
-/

namespace TelemetrySidecar

/-- A value of a configuration document. -/
inductive Node where
  | null
  | bool (value : Bool)
  | int (value : Int)
  | float (value : Binary64)
  | text (value : String)
  | seq (items : List Node)
  | map (entries : List (Node × Node))
  | tagged (tag : String) (value : Node)
  deriving Inhabited

/-- The entries of a mapping, in order. -/
abbrev Mapping := List (Node × Node)

namespace Node

/-- The node under all its tags. -/
def untagged : Node → Node
  | tagged _ value => value.untagged
  | node => node

/-- The string a node is, tags aside. -/
def text? (node : Node) : Option String :=
  match node.untagged with
  | text s => some s
  | _ => none

/-- The entries of the mapping a node is, tags aside. -/
def entries? (node : Node) : Option Mapping :=
  match node.untagged with
  | map entries => some entries
  | _ => none

mutual

/-- Whether two nodes are the same value: numbers by value, mappings whatever
the order of their entries. -/
def same : Node → Node → Bool
  | null, null => true
  | bool a, bool b => a == b
  | int a, int b => a == b
  | float a, float b => a.same b
  | text a, text b => a == b
  | seq a, seq b => sameItems a b
  | map a, map b => a.length == b.length && eachIn a b
  | tagged t a, tagged u b => t == u && same a b
  | _, _ => false

/-- Whether two sequences are the same, item by item. -/
def sameItems : List Node → List Node → Bool
  | [], [] => true
  | a :: as, b :: bs => same a b && sameItems as bs
  | _, _ => false

/-- Whether every entry of the first mapping stands in the second. -/
def eachIn : List (Node × Node) → List (Node × Node) → Bool
  | [], _ => true
  | (k, v) :: rest, other => (other.any fun e => same k e.1 && same v e.2) && eachIn rest other

end

end Node

namespace Mapping

/-- The value under a key. -/
def find? (key : Node) : Mapping → Option Node
  | [] => none
  | (k, v) :: rest => if key.same k then some v else find? key rest

/-- Whether the mapping has the key. -/
def has (key : Node) (entries : Mapping) : Bool := (entries.find? key).isSome

/-- The mapping with a value put under a key: in the place of the old value, or
else at the end. -/
def insert (key value : Node) : Mapping → Mapping
  | [] => [(key, value)]
  | (k, v) :: rest => if key.same k then (k, value) :: rest else (k, v) :: insert key value rest

/-- The mapping that inserting the pairs one by one builds. -/
def ofPairs (pairs : List (Node × Node)) : Mapping :=
  pairs.foldl (fun entries p => entries.insert p.1 p.2) []

end Mapping

end TelemetrySidecar

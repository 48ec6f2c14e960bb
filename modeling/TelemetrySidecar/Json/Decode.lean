import TelemetrySidecar.Json.Value

/-
  Values of expected shape

  A record is read from an object, whose other members do not matter, or from a
  list of its fields in order. Reading goes from the left, and the first fault
  is the one that counts.
-/

namespace TelemetrySidecar.Json

namespace Tree

/-- The fault of a tree that is not of the shape expected. -/
def mismatch (t : Tree) : Fault :=
  match t with
  | broken place => place.taken
  | text (.error fault) => fault
  | number digits => if (Number.ofDigits digits).isSome then .unfit else .malformed
  | _ => .unfit

/-- The string a tree is. -/
def string : Tree → Except Fault String
  | text (.ok s) => .ok (String.ofList s)
  | t => .error t.mismatch

/-- The string a tree is, or no string for null. -/
def optionalString : Tree → Except Fault (Option String)
  | null => .ok none
  | t => t.string.map some

/-- The natural number below a bound that a tree is. -/
def natBelow (bound : Nat) (t : Tree) : Except Fault Nat :=
  match t with
  | number digits =>
    match Number.ofDigits digits with
    | some (.int i) => if 0 ≤ i ∧ i < bound then .ok i.toNat else .error .unfit
    | _ => .error t.mismatch
  | t => .error t.mismatch

/-- The items of a list, each read in turn. -/
def items {α : Type} (depth : Nat) (read : Nat → Tree → Except Fault α) (t : Tree) :
    Except Fault (List α) :=
  match t with
  | list trees ending => do
    let depth ← deeper depth
    let values ← trees.mapM (read depth)
    ending.take
    return values
  | t => .error t.mismatch

/-- One of several names: as a string, or as the name of the only member of an
object whose value is null. -/
def oneOf {α : Type} (depth : Nat) (choose : String → Option α) (t : Tree) : Except Fault α :=
  let chosen (name : List Char) : Except Fault α :=
    match choose (String.ofList name) with
    | some a => .ok a
    | none => .error .unfit
  match t with
  | text content => content.bind chosen
  | broken place => .error place.taken
  | object members ending => do
    let _ ← deeper depth
    match members, ending with
    | [], .closed => throw .malformed
    | [], .broken _ _ asValue => throw asValue
    | (name, value) :: rest, ending =>
      let a ← name.bind chosen
      match value with
      | null => pure ()
      | value => throw value.mismatch
      match rest, ending with
      | [], .closed => return a
      | [], .broken false place _ => throw place.taken
      | _, _ => throw .malformed
  | _ => .error .malformed

/-! ## Records -/

/-- The fields of a record among the members of an object: each that has one of
the names is read, at most once; others are passed over. -/
def namedFields {α : Type} (names : List String) (read : String → Tree → Except Fault α)
    (seen : List String) :
    List (Except Fault (List Char) × Tree) → Except Fault (List (String × α))
  | [] => .ok []
  | (name, tree) :: rest => do
    let name := String.ofList (← name)
    if !names.contains name then
      tree.pass
      namedFields names read seen rest
    else if seen.contains name then throw .unfit
    else
      let a ← read name tree
      let more ← namedFields names read (name :: seen) rest
      return (name, a) :: more

/-- The fields of a record among the items of a list, in order. Fields may be
missing at the end, but no item may be left. -/
def orderedFields {α : Type} (read : String → Tree → Except Fault α) :
    (names : List String) → List Tree → Except Fault (List (String × α) × List Tree)
  | [], items => .ok ([], items)
  | _ :: _, [] => .ok ([], [])
  | name :: names, item :: items => do
    let a ← read name item
    let (more, left) ← orderedFields read names items
    return ((name, a) :: more, left)

/-- A record: its fields are read, and `build` makes the record of them or says
that one is missing. -/
def record {α β : Type} (depth : Nat) (names : List String)
    (read : Nat → String → Tree → Except Fault α) (build : List (String × α) → Option β)
    (t : Tree) : Except Fault β :=
  let built (fields : List (String × α)) : Except Fault β :=
    match build fields with
    | some b => .ok b
    | none => .error .unfit
  match t with
  | object members ending => do
    let depth ← deeper depth
    let fields ← namedFields names (read depth) [] members
    ending.take
    built fields
  | list trees ending => do
    let depth ← deeper depth
    let (fields, left) ← orderedFields (read depth) names trees
    -- A list that ends before its last field is due misses it.
    if fields.length < names.length then
      ending.take
      built fields
    else
      let b ← built fields
      if !left.isEmpty then throw .malformed
      ending.take
      return b
  | t => .error t.mismatch

end Tree

/-- What a document is read as: its value, if nothing follows that. -/
def Document.read {α : Type} (read : Nat → Tree → Except Fault α) (d : Document) : Except Fault α := do
  let a ← read maxDepth d.value
  if d.trailing then throw .malformed
  return a

end TelemetrySidecar.Json

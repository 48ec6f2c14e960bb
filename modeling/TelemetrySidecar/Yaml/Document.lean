import TelemetrySidecar.Yaml.Event
import TelemetrySidecar.Yaml.Plain
import TelemetrySidecar.Yaml.Token.Stream

/-
  The node of a document

  Events are read as a node. An alias is read by going back to the events of
  the anchored node, so what it costs is counted: a document may go back at
  most a hundred times for each of its events, and no node may lie deeper than
  128 collections.
-/

namespace TelemetrySidecar.Yaml

/-- Where each anchored node begins, by the anchor's number. -/
abbrev Anchors := List (Nat × List Event)

/-- Names of anchors with their numbers, and where the nodes begin. -/
structure AnchorTable where
  numbers : List (String × Nat) := []
  nodes : Anchors := []

/-- An event in which aliases name the anchor's number. -/
inductive Resolved where
  | alias (number : Nat)
  | node (event : Event)

/-- Takes note of an anchor. Its number is the number of different names noted
so far, so a name noted again takes a new number, and the next new name takes
that number too. -/
def AnchorTable.note (table : AnchorTable) (name : String) (rest : List Event) : AnchorTable :=
  let number := table.numbers.length
  { numbers := (name, number) :: table.numbers.filter (fun e => e.1 != name)
    nodes := (number, rest) :: table.nodes }

def Event.anchor? : Event → Option String
  | .scalar p _ _ | .sequenceStart p | .mappingStart p => p.anchor
  | .alias _ | .collectionEnd => none

/-- The anchors of a document; an alias may name only an anchor before it.
Gives for each alias, in order, the number it goes back to. -/
def collectAnchors : AnchorTable → List Event → Except Fault (List Nat × Anchors)
  | table, [] => .ok ([], table.nodes)
  | table, .alias name :: rest => do
    match table.numbers.lookup name with
    | none => throw .unknownAnchor
    | some n =>
      let (more, nodes) ← collectAnchors table rest
      return (n :: more, nodes)
  | table, e :: rest =>
    collectAnchors (match e.anchor? with
      | some name => table.note name (e :: rest)
      | none => table) rest

/-- The events with the anchors' numbers in place of their names. -/
def numberAliases : List Nat → List Event → List Resolved
  | n :: ns, .alias _ :: rest => .alias n :: numberAliases ns rest
  | ns, e :: rest => .node e :: numberAliases ns rest
  | _, [] => []

/-- A tag without the mark before it; a mark alone stays. -/
def unmarked : List UInt8 → List UInt8
  | 0x21 :: b :: rest => b :: rest
  | tag => tag

/-- A local tag, without its mark and one more; other tags do not show in a
node. -/
def localTag (tag : Option (List UInt8)) : Option String :=
  match tag with
  | some (0x21 :: rest) =>
    (Text.decode? (unmarked (unmarked (0x21 :: rest)))).map String.ofList
  | _ => none

/-- The tag of a kind of scalar. -/
def kindTag (kind : String) : List UInt8 := Text.encode ("tag:yaml.org,2002:" ++ kind)

/-- The node of a scalar under a tag that is not local. -/
def scalarNode (tag : Option (List UInt8)) (s : String) (style : Style) : Except Fault Node :=
  let plain : Except Fault Node :=
    if style = .plain then
      match plainNode s with
      | some n => .ok n
      | none => .error .numberOutOfRange
    else .ok (.text s)
  match tag with
  | none => plain
  | some t =>
    if t = kindTag "bool" then
      match boolOf s with
      | some b => .ok (.bool b)
      | none => .error .badTaggedScalar
    else if t = kindTag "int" then
      match integerNode s with
      | some (.ok n) => .ok n
      | _ => .error .badTaggedScalar
    else if t = kindTag "float" then
      match floatOf s with
      | some x => .ok (.float x)
      | none => .error .badTaggedScalar
    else if t = kindTag "null" then
      if isNullWord s then .ok .null else .error .badTaggedScalar
    else if t.head? = some 0x21 then plain
    else .ok (.text s)

/-- What is read of a list of events: a value, the events after it, and how
often an alias went back so far. -/
abbrev Built (α : Type) := Except Fault (α × List Resolved × Nat)

/-- The fixed surroundings of a reading: where anchored nodes begin, and how
often aliases may go back. -/
structure Limits where
  nodes : List (Nat × List Resolved)
  jumps : Nat

mutual

/-- The node that begins with the first event. `depth` collections may still
be opened. -/
def buildNode (limits : Limits) : Nat → (depth : Nat) → (jumps : Nat) → List Resolved → Built Node
  | 0, _, _, _ => .error .repeatedTooOften
  | fuel + 1, depth, jumps, events =>
    match events with
    | .alias n :: rest =>
      if jumps + 1 > limits.jumps then .error .repeatedTooOften
      else match limits.nodes.lookup n with
        | none => .error .unknownAnchor
        | some target =>
          match buildNode limits fuel depth (jumps + 1) target with
          | .error e => .error e
          | .ok (node, _, jumps) => .ok (node, rest, jumps)
    | .node (.scalar p s style) :: rest =>
      match localTag p.tag with
      | some tag => (scalarNode none s style).map fun n => (.tagged tag n, rest, jumps)
      | none => (scalarNode p.tag s style).map fun n => (n, rest, jumps)
    | .node (.sequenceStart p) :: rest =>
      match depth with
      | 0 => .error .nestedTooDeep
      | depth + 1 =>
        match buildItems limits fuel depth jumps rest with
        | .error e => .error e
        | .ok (items, rest, jumps) => .ok (wrap p (.seq items), rest, jumps)
    | .node (.mappingStart p) :: rest =>
      match depth with
      | 0 => .error .nestedTooDeep
      | depth + 1 =>
        match buildEntries limits fuel depth jumps [] rest with
        | .error e => .error e
        | .ok (entries, rest, jumps) => .ok (wrap p (.map entries), rest, jumps)
    | _ => .error .unexpectedToken
where
  wrap (p : Properties) (n : Node) : Node :=
    match localTag p.tag with
    | some tag => .tagged tag n
    | none => n

/-- The items of a sequence, to its end. -/
def buildItems (limits : Limits) : Nat → Nat → Nat → List Resolved → Built (List Node)
  | 0, _, _, _ => .error .repeatedTooOften
  | fuel + 1, depth, jumps, events =>
    match events with
    | .node .collectionEnd :: rest => .ok ([], rest, jumps)
    | _ =>
      match buildNode limits fuel depth jumps events with
      | .error e => .error e
      | .ok (item, rest, jumps) =>
        match buildItems limits fuel depth jumps rest with
        | .error e => .error e
        | .ok (more, rest, jumps) => .ok (item :: more, rest, jumps)

/-- The entries of a mapping, to its end; a key may stand only once. -/
def buildEntries (limits : Limits) : Nat → Nat → Nat → Mapping → List Resolved → Built Mapping
  | 0, _, _, _, _ => .error .repeatedTooOften
  | fuel + 1, depth, jumps, entries, events =>
    match events with
    | .node .collectionEnd :: rest => .ok (entries, rest, jumps)
    | _ =>
      match buildNode limits fuel depth jumps events with
      | .error e => .error e
      | .ok (key, rest, jumps) =>
        if entries.has key then .error .duplicateKey
        else match buildNode limits fuel depth jumps rest with
          | .error e => .error e
          | .ok (value, rest, jumps) =>
            buildEntries limits fuel depth jumps (entries ++ [(key, value)]) rest

end

/-- The greatest depth of collections. -/
def maxDepth : Nat := 128

/-- The node of a document's events; an empty stream is null. -/
def nodeOfEvents (events : List Event) : Except Fault Node := do
  let (numbers, nodes) ← collectAnchors {} events
  if events.isEmpty then return .null
  let resolved := numberAliases numbers events
  -- An anchored node's events are as many as lie after it in the document.
  let tail (es : List Event) : List Resolved := resolved.drop (events.length - es.length)
  let limits : Limits := {
    nodes := nodes.map fun e => (e.1, tail e.2)
    jumps := 100 * events.length }
  let fuel := (events.length + 2) * (limits.jumps + 2)
  let (node, _, _) ← buildNode limits fuel maxDepth 0 resolved
  return node

end Yaml

/-- The node a document's text describes. -/
def Node.ofYaml (text : String) : Except Yaml.Fault Node := do
  Yaml.nodeOfEvents (← Yaml.document (← Yaml.tokens text.toList))

end TelemetrySidecar

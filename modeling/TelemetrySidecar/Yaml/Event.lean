import TelemetrySidecar.Yaml.Token.Basic
import TelemetrySidecar.Text.Utf8

/-
  Events of a document

  The nodes of a document in the order they are met: scalars and aliases, and
  the starts and ends of collections. Every reading function takes the tokens
  that are left and gives back its events and what is left after them.
-/

namespace TelemetrySidecar.Yaml

/-- The anchor and the tag of a node; the tag in octets, its handle resolved. -/
structure Properties where
  anchor : Option String := none
  tag : Option (List UInt8) := none

inductive Event where
  | alias (name : String)
  | scalar (properties : Properties) (text : String) (style : Style)
  | sequenceStart (properties : Properties)
  | mappingStart (properties : Properties)
  | collectionEnd

/-- The scalar that stands where nothing is written. -/
def Event.nothing : Event := .scalar {} "" .plain

/-- Tag handles and what they stand for. -/
abbrev Handles := List (String × List UInt8)

/-- The handles every document knows. -/
def standardHandles : Handles :=
  [("!", Text.encode "!"), ("!!", Text.encode "tag:yaml.org,2002:")]

/-- The tag in full; a tag in brackets has no handle. -/
def TagText.resolve (handles : Handles) (t : TagText) : Except Fault (List UInt8) :=
  if t.handle = "" then .ok t.suffix
  else match handles.lookup t.handle with
    | some lead => .ok (lead ++ t.suffix)
    | none => .error .unknownTagHandle

abbrev Tokens := List Token

/-- An anchor and a tag, in either order. -/
def takeProperties (handles : Handles) (ts : Tokens) : Except Fault (Properties × Tokens) :=
  match ts with
  | .anchor a :: .tag t :: rest => return ({ anchor := some a, tag := some (← t.resolve handles) }, rest)
  | .anchor a :: rest => .ok ({ anchor := some a }, rest)
  | .tag t :: .anchor a :: rest =>
    return ({ anchor := some a, tag := some (← t.resolve handles) }, rest)
  | .tag t :: rest => return ({ tag := some (← t.resolve handles) }, rest)
  | _ => .ok ({}, ts)

/-- Where a node may stand: inside a flow collection, or in a block, there
perhaps as a sequence without indentation of its own. -/
inductive Place where
  | flow
  | block
  | blockValue
  deriving DecidableEq

/-- A mark alone is no tag for a scalar. -/
def Properties.ofScalar (p : Properties) : Properties :=
  if p.tag = some (Text.encode "!") then { p with tag := none } else p

/-- Where a token list may go on without a node. -/
def endsBlockItem : Tokens → Bool
  | .blockEntry :: _ | .blockEnd :: _ => true
  | _ => false

def endsIndentlessItem : Tokens → Bool
  | .blockEntry :: _ | .key :: _ | .value :: _ | .blockEnd :: _ => true
  | _ => false

def endsBlockPart : Tokens → Bool
  | .key :: _ | .value :: _ | .blockEnd :: _ => true
  | _ => false

def endsFlowItem : Tokens → Bool
  | .flowEntry :: _ | .flowSequenceEnd :: _ => true
  | _ => false

def endsFlowPart : Tokens → Bool
  | .flowEntry :: _ | .flowMappingEnd :: _ => true
  | _ => false

def startsWith (t : Token) : Tokens → Bool
  | u :: _ => u == t
  | [] => false

/-- What a reading function gives: its events and the tokens after them. -/
abbrev Read := Except Fault (List Event × Tokens)

/-- The events of one reading after those of another. -/
def Read.andThen (first : Read) (next : Tokens → Read) : Read :=
  match first with
  | .error e => .error e
  | .ok (events, ts) =>
    match next ts with
    | .error e => .error e
    | .ok (more, ts) => .ok (events ++ more, ts)

/-- Events that stand for themselves, before those of a reading. -/
def Read.after (events : List Event) (next : Read) : Read :=
  match next with
  | .error e => .error e
  | .ok (more, ts) => .ok (events ++ more, ts)

mutual

/-- A node. -/
def takeNode (handles : Handles) : Nat → Place → Tokens → Read
  | 0, _, _ => .error .unexpectedToken
  | fuel + 1, place, ts =>
    match ts with
    | .alias name :: rest => .ok ([.alias name], rest)
    | _ =>
      match takeProperties handles ts with
      | .error e => .error e
      | .ok (p, rest) =>
        match rest with
        | .blockEntry :: _ =>
          if place = .blockValue then
            Read.after [.sequenceStart p] (takeIndentless handles fuel rest)
          else if p.anchor.isSome || p.tag.isSome then .ok ([.scalar p "" .plain], rest)
          else .error .unexpectedToken
        | .scalar text style :: rest => .ok ([.scalar p.ofScalar text style], rest)
        | .flowSequenceStart :: rest =>
          Read.after [.sequenceStart p] (takeFlowItems handles fuel true rest)
        | .flowMappingStart :: rest =>
          Read.after [.mappingStart p] (takeFlowEntries handles fuel true rest)
        | .blockSequenceStart :: inner =>
          if place ≠ .flow then Read.after [.sequenceStart p] (takeBlockItems handles fuel inner)
          else if p.anchor.isSome || p.tag.isSome then .ok ([.scalar p "" .plain], rest)
          else .error .unexpectedToken
        | .blockMappingStart :: inner =>
          if place ≠ .flow then Read.after [.mappingStart p] (takeBlockEntries handles fuel inner)
          else if p.anchor.isSome || p.tag.isSome then .ok ([.scalar p "" .plain], rest)
          else .error .unexpectedToken
        | _ =>
          if p.anchor.isSome || p.tag.isSome then .ok ([.scalar p "" .plain], rest)
          else .error .unexpectedToken

/-- The items of an indented sequence. -/
def takeBlockItems (handles : Handles) : Nat → Tokens → Read
  | 0, _ => .error .unexpectedToken
  | fuel + 1, ts =>
    match ts with
    | .blockEntry :: rest =>
      (if endsBlockItem rest then .ok ([Event.nothing], rest)
        else takeNode handles fuel .block rest).andThen (takeBlockItems handles fuel)
    | .blockEnd :: rest => .ok ([.collectionEnd], rest)
    | _ => .error .unexpectedToken

/-- The items of a sequence that shares the indentation of its mapping. -/
def takeIndentless (handles : Handles) : Nat → Tokens → Read
  | 0, _ => .error .unexpectedToken
  | fuel + 1, ts =>
    match ts with
    | .blockEntry :: rest =>
      (if endsIndentlessItem rest then .ok ([Event.nothing], rest)
        else takeNode handles fuel .block rest).andThen (takeIndentless handles fuel)
    | _ => .ok ([.collectionEnd], ts)

/-- The entries of an indented mapping. -/
def takeBlockEntries (handles : Handles) : Nat → Tokens → Read
  | 0, _ => .error .unexpectedToken
  | fuel + 1, ts =>
    match ts with
    | .key :: rest =>
      (if endsBlockPart rest then .ok ([Event.nothing], rest)
        else takeNode handles fuel .blockValue rest).andThen fun ts =>
      (takeBlockValue handles fuel ts).andThen (takeBlockEntries handles fuel)
    | .blockEnd :: rest => .ok ([.collectionEnd], rest)
    | _ => .error .unexpectedToken

/-- The value of a block entry. -/
def takeBlockValue (handles : Handles) : Nat → Tokens → Read
  | 0, _ => .error .unexpectedToken
  | fuel + 1, ts =>
    match ts with
    | .value :: rest =>
      if endsBlockPart rest then .ok ([Event.nothing], rest)
      else takeNode handles fuel .blockValue rest
    | _ => .ok ([Event.nothing], ts)

/-- The items of a flow sequence. -/
def takeFlowItems (handles : Handles) : Nat → (first : Bool) → Tokens → Read
  | 0, _, _ => .error .unexpectedToken
  | fuel + 1, first, ts =>
    match ts with
    | .flowSequenceEnd :: rest => .ok ([.collectionEnd], rest)
    | _ =>
      let item (ts : Tokens) : Read :=
        match ts with
        | .flowSequenceEnd :: rest => .ok ([.collectionEnd], rest)
        | .key :: rest =>
          (Read.after [.mappingStart {}] (takeFlowPair handles fuel rest)).andThen
            (takeFlowItems handles fuel false)
        | _ => (takeNode handles fuel .flow ts).andThen (takeFlowItems handles fuel false)
      if first then item ts
      else match ts with
        | .flowEntry :: rest => item rest
        | _ => .error .unexpectedToken

/-- A mapping of one entry, written as an item of a flow sequence. Without a
key, the token in the key's place is passed over. -/
def takeFlowPair (handles : Handles) : Nat → Tokens → Read
  | 0, _ => .error .unexpectedToken
  | fuel + 1, ts =>
    (if startsWith .value ts || endsFlowItem ts then .ok ([Event.nothing], ts.tail)
      else takeNode handles fuel .flow ts).andThen fun ts =>
    Read.andThen
      (match ts with
        | .value :: rest =>
          if endsFlowItem rest then .ok ([Event.nothing], rest)
          else takeNode handles fuel .flow rest
        | _ => .ok ([Event.nothing], ts))
      fun ts => .ok ([.collectionEnd], ts)

/-- The entries of a flow mapping. -/
def takeFlowEntries (handles : Handles) : Nat → (first : Bool) → Tokens → Read
  | 0, _, _ => .error .unexpectedToken
  | fuel + 1, first, ts =>
    match ts with
    | .flowMappingEnd :: rest => .ok ([.collectionEnd], rest)
    | _ =>
      let entry (ts : Tokens) : Read :=
        match ts with
        | .flowMappingEnd :: rest => .ok ([.collectionEnd], rest)
        | .key :: rest =>
          (if startsWith .value rest || endsFlowPart rest then .ok ([Event.nothing], rest)
            else takeNode handles fuel .flow rest).andThen fun ts =>
          (takeFlowValue handles fuel ts).andThen (takeFlowEntries handles fuel false)
        | _ =>
          (takeNode handles fuel .flow ts).andThen fun ts =>
          Read.after [Event.nothing] (takeFlowEntries handles fuel false ts)
      if first then entry ts
      else match ts with
        | .flowEntry :: rest => entry rest
        | _ => .error .unexpectedToken

/-- The value of a flow entry. -/
def takeFlowValue (handles : Handles) : Nat → Tokens → Read
  | 0, _ => .error .unexpectedToken
  | fuel + 1, ts =>
    match ts with
    | .value :: rest =>
      if endsFlowPart rest then .ok ([Event.nothing], rest)
      else takeNode handles fuel .flow rest
    | _ => .ok ([Event.nothing], ts)

end

/-! ## Documents -/

/-- Directives: at most one version, and handles each named once. -/
def takeDirectives : Nat → (versioned : Bool) → Handles → Tokens → Except Fault (Handles × Tokens)
  | 0, _, _, _ => .error .badDirective
  | fuel + 1, versioned, handles, ts =>
    match ts with
    | .version major minor :: rest =>
      if versioned || major ≠ 1 || (minor ≠ 1 && minor ≠ 2) then .error .badDirective
      else takeDirectives fuel true handles rest
    | .tagDirective handle lead :: rest =>
      if (handles.lookup handle).isSome then .error .badDirective
      else takeDirectives fuel versioned (handles ++ [(handle, lead)]) rest
    | _ => .ok (handles, ts)

/-- Whether the document's content is missing. -/
def endsDocument : Tokens → Bool
  | .version _ _ :: _ | .tagDirective _ _ :: _ | .documentStart :: _ | .documentEnd :: _
  | .streamEnd :: _ | [] => true
  | _ => false

/-- The events of the one document of a stream; none if the stream is empty.
A node takes no more steps than four for each token. -/
def document (ts : Tokens) : Except Fault (List Event) :=
  let fuel := 4 * ts.length + 4
  let content (handles : Handles) (ts : Tokens) : Except Fault (List Event) :=
    match takeNode handles fuel .block ts with
    | .error e => .error e
    | .ok (events, rest) => finish events rest
  match ts with
  | .streamEnd :: _ | [] => .ok []
  | .version _ _ :: _ | .tagDirective _ _ :: _ | .documentStart :: _ =>
    match takeDirectives fuel false [] ts with
    | .error e => .error e
    | .ok (handles, .documentStart :: rest) =>
      if endsDocument rest then finish [Event.nothing] rest
      else content (handles ++ standardHandles) rest
    | .ok _ => .error .unexpectedToken
  | _ => content standardHandles ts
where
  /-- After a document only marks of its end may follow. -/
  finish (events : List Event) (ts : Tokens) : Except Fault (List Event) :=
    match ts.dropWhile (· == .documentEnd) with
    | [.streamEnd] => .ok events
    | .documentStart :: _ | .version _ _ :: _ | .tagDirective _ _ :: _ => .error .secondDocument
    | _ => .error .unexpectedToken

end TelemetrySidecar.Yaml

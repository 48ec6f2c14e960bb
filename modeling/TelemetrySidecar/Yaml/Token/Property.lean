import TelemetrySidecar.Text.Digit
import TelemetrySidecar.Text.Utf8
import TelemetrySidecar.Yaml.Token.Basic

/-
  Node properties and directives

  Tags, anchors and aliases before a node, and the directives before a
  document.
-/

namespace TelemetrySidecar.Yaml

/-! ## Tags -/

/-- The characters of a tag's suffix; the last three in a tag in brackets and
in a directive only. -/
def isTagChar (verbatim : Bool) (c : Char) : Bool :=
  isWord c || ";/?:@&=+$.%!~*'()".toList.contains c || (verbatim && ",[]".toList.contains c)

/-- How many octets a character takes that begins with this one. -/
def octetsFrom (lead : Nat) : Option Nat :=
  if lead < 0x80 then some 1
  else if lead / 0x20 = 0x6 then some 2
  else if lead / 0x10 = 0xE then some 3
  else if lead / 0x8 = 0x1E then some 4
  else none

/-- One octet written as a percent sign and two digits. -/
def takeEscape (c : Cursor) : Except Fault (Nat × Cursor) :=
  match c.rest with
  | '%' :: a :: b :: _ =>
    match Text.digitValue? a, Text.digitValue? b with
    | some x, some y => .ok (16 * x + y, c.advanceBy 3)
    | _, _ => .error .badTag
  | _ => .error .badTag

/-- The further octets of an escaped character. -/
def takeTail : Nat → Cursor → Except Fault (List UInt8 × Cursor)
  | 0, c => .ok ([], c)
  | n + 1, c => do
    let (octet, c) ← takeEscape c
    if octet / 0x40 ≠ 2 then throw .badTag
    let (more, c) ← takeTail n c
    return (UInt8.ofNat octet :: more, c)

/-- A character of which every octet is escaped. -/
def takeEscaped (c : Cursor) : Except Fault (List UInt8 × Cursor) := do
  let (lead, c) ← takeEscape c
  match octetsFrom lead with
  | none => throw .badTag
  | some n =>
    let (more, c) ← takeTail (n - 1) c
    return (UInt8.ofNat lead :: more, c)

/-- The octets of a tag's suffix, as far as its characters go. -/
def takeSuffix (verbatim : Bool) : Nat → Cursor → Except Fault (List UInt8 × Cursor)
  | 0, c => .ok ([], c)
  | fuel + 1, c =>
    match c.peek with
    | none => .ok ([], c)
    | some x =>
      if !isTagChar verbatim x then .ok ([], c)
      else do
        let (octets, c) ← if x = '%' then takeEscaped c
          else .ok (Text.encode (String.singleton x), c.advance)
        let (more, c) ← takeSuffix verbatim fuel c
        return (octets ++ more, c)

/-- A suffix that must not be empty. -/
def takeSuffix1 (verbatim : Bool) (c : Cursor) : Except Fault (List UInt8 × Cursor) := do
  let (octets, c') ← takeSuffix verbatim c.rest.length c
  if octets.isEmpty then throw .badTag
  return (octets, c')

/-- A handle: an exclamation mark, a word and, if it follows, another mark. -/
def takeHandle (c : Cursor) : String × Cursor :=
  let word := c.advance.rest.takeWhile isWord
  let c := c.advanceBy (1 + word.length)
  if c.sees '!' then (String.ofList ('!' :: word ++ ['!']), c.advance)
  else (String.ofList ('!' :: word), c)

/-- The tag that begins here. A handle without a second mark belongs to the
suffix of a local tag. -/
def takeTag (flow : Bool) (c : Cursor) : Except Fault (TagText × Cursor) := do
  let (text, c) ←
    if c.peekAt 1 = some '<' then do
      let (suffix, c) ← takeSuffix1 true (c.advanceBy 2)
      if !c.sees '>' then throw .badTag
      pure (⟨"", suffix⟩, c.advance)
    else do
      let (handle, after) := takeHandle c
      if handle.length ≥ 2 && handle.endsWith "!" then
        let (suffix, c) ← takeSuffix1 false after
        pure (⟨handle, suffix⟩, c)
      else
        let (more, c) ← takeSuffix false after.rest.length after
        let suffix := Text.encode (String.ofList (handle.toList.drop 1)) ++ more
        -- A mark alone is a tag of its own, under no handle.
        pure (if suffix.isEmpty then ⟨"", Text.encode "!"⟩ else ⟨"!", suffix⟩, c)
  if (flow && c.sees ',') || c.endsWordAt 0 then return (text, c) else throw .badTag

/-! ## Anchors and aliases -/

/-- The name of the anchor or alias whose mark stands here. -/
def takeAnchor (c : Cursor) : Except Fault (String × Cursor) :=
  let c := c.advance
  let name := c.rest.takeWhile isWord
  let c := c.advanceBy name.length
  if name.isEmpty then .error .badAnchor
  else if c.endsWordAt 0 || c.atClass (fun x => "?:,]\x7d%@\x60".toList.contains x) then
    .ok (String.ofList name, c)
  else .error .badAnchor

/-! ## Directives -/

/-- A number of at most nine digits. -/
def takeVersionNumber (c : Cursor) : Except Fault (Nat × Cursor) :=
  let digits := c.rest.takeWhile Char.isDigit
  if digits.isEmpty || digits.length > 9 then .error .badDirective
  else .ok (Text.numeral 10 digits, c.advanceBy digits.length)

def takeVersion (c : Cursor) : Except Fault (Token × Cursor) := do
  let (major, c) ← takeVersionNumber (c.advanceWhile isSpaceOrTab)
  if !c.sees '.' then throw .badDirective
  let (minor, c) ← takeVersionNumber c.advance
  return (.version major minor, c)

def takeTagDirective (c : Cursor) : Except Fault (Token × Cursor) := do
  let c := c.advanceWhile isSpaceOrTab
  if !c.sees '!' then throw .badDirective
  let (handle, c) := takeHandle c
  if !(handle == "!" || handle.endsWith "!") then throw .badDirective
  if !c.atClass isSpaceOrTab then throw .badDirective
  let (lead, c) ← takeSuffix1 true (c.advanceWhile isSpaceOrTab)
  if !c.endsWordAt 0 then throw .badDirective
  return (.tagDirective handle lead, c)

/-- The directive that begins here, to the end of its line. -/
def takeDirective (c : Cursor) : Except Fault (Token × Cursor) := do
  let c := c.advance
  let name := c.rest.takeWhile isWord
  let c := c.advanceBy name.length
  if !c.endsWordAt 0 then throw .badDirective
  let (token, c) ←
    if name = "YAML".toList then takeVersion c
    else if name = "TAG".toList then takeTagDirective c
    else throw .badDirective
  let c := c.skipComment
  if !c.atLineEnd then throw .badDirective
  return (token, c.skipBreak)

end TelemetrySidecar.Yaml

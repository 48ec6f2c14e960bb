import TelemetrySidecar.Yaml.Cursor

/-
  Tokens of a document
-/

namespace TelemetrySidecar.Yaml

/-- How a scalar was written. -/
inductive Style where
  | plain
  | quoted
  | block
  deriving DecidableEq, Repr

/-- A tag as written: its handle, and its suffix in octets, which escapes may
have given. -/
structure TagText where
  handle : String
  suffix : List UInt8
  deriving DecidableEq, Repr

inductive Token where
  | version (major minor : Nat)
  | tagDirective (handle : String) (lead : List UInt8)
  | documentStart
  | documentEnd
  | blockSequenceStart
  | blockMappingStart
  | blockEnd
  | flowSequenceStart
  | flowSequenceEnd
  | flowMappingStart
  | flowMappingEnd
  | blockEntry
  | flowEntry
  | key
  | value
  | alias (name : String)
  | anchor (name : String)
  | tag (text : TagText)
  | scalar (text : String) (style : Style)
  | streamEnd
  deriving DecidableEq, Repr


end TelemetrySidecar.Yaml

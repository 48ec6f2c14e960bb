import TelemetrySidecar.Json.Decode
import TelemetrySidecar.Text.Cut

/-
  Events of telemetry

  An event has a time, a type and a record, which is any JSON value. Events are
  sent in batches.
-/

namespace TelemetrySidecar

structure TelemetryEvent where
  time : String
  type : String
  record : Json.Value

/-- Events that were sent together, in order. -/
abbrev Batch := List TelemetryEvent

namespace TelemetryEvent

/-- Whether the event is one of the platform's own. -/
def isPlatform (e : TelemetryEvent) : Bool :=
  (Text.dropLead "platform.".toList e.type.toList).isSome

open Json

/-- What a field of an event holds. -/
inductive Field where
  | text (text : String)
  | record (value : Value)

def Field.names : List String := ["time", "type", "record"]

def Field.read (depth : Nat) (name : String) (t : Tree) : Except Fault Field :=
  if name = "record" then (t.value depth).map .record else t.string.map .text

/-- The event that fields give, if none is missing. -/
def ofFields (fields : List (String × Field)) : Option TelemetryEvent :=
  match fields.lookup "time", fields.lookup "type", fields.lookup "record" with
  | some (.text time), some (.text type), some (.record record) => some { time, type, record }
  | _, _, _ => none

def read (depth : Nat) (t : Tree) : Except Fault TelemetryEvent :=
  t.record depth Field.names Field.read ofFields

end TelemetryEvent

namespace Batch

/-- The batch that a document is. -/
def read (d : Json.Document) : Except Json.Fault Batch :=
  Json.Document.read (fun depth t => t.items depth TelemetryEvent.read) d

/-- The batch that octets are. -/
def ofOctets (octets : List UInt8) : Except Json.Fault Batch := read (.ofOctets octets)

end Batch

end TelemetrySidecar

import TelemetrySidecar.Telemetry.Buffering

/-
  Subscriptions to telemetry

  A subscription says which kinds of events are to be sent, how they are held
  back before, and where to. Events are sent in one way only: as JSON in the
  body of a POST over HTTP.
-/

namespace TelemetrySidecar

/-- The kinds of events there are. -/
inductive TelemetryType where
  | platform
  | function
  | extension
  deriving DecidableEq, Repr

namespace TelemetryType

def all : List TelemetryType := [platform, function, extension]

def name : TelemetryType → String
  | platform => "platform"
  | function => "function"
  | extension => "extension"

def ofName? (name : String) : Option TelemetryType := all.find? fun t => t.name == name

end TelemetryType

structure Subscription where
  schemaVersion : String := "2022-07-01"
  types : List TelemetryType
  buffering : Buffering := {}
  /-- The address events are sent to. -/
  uri : String
  deriving DecidableEq, Repr

namespace Subscription

/-- A subscription to events of the platform only. -/
def platformEvents (uri : String) : Subscription := { types := [.platform], uri }

open Json

/-- The parts of a destination that are always the same. -/
def fixedParts : List (String × String) :=
  [("protocol", "HTTP"), ("method", "POST"), ("encoding", "JSON")]

def destinationValue (uri : String) : Value :=
  .object ((fixedParts.map fun p => (p.1, .text p.2)) ++ [("URI", .text uri)])

def value (s : Subscription) : Value :=
  .object [
    ("schemaVersion", .text s.schemaVersion),
    ("types", .list (s.types.map fun t => .text t.name)),
    ("buffering", s.buffering.value),
    ("destination", destinationValue s.uri)]

/-- The address that the fields of a destination give, if none is missing. -/
def uriOfFields (fields : List (String × String)) : Option String :=
  if fixedParts.all fun p => (fields.lookup p.1).isSome then fields.lookup "URI" else none

def readDestination (depth : Nat) (t : Tree) : Except Fault String :=
  t.record depth (fixedParts.map (·.1) ++ ["URI"])
    (fun depth name t =>
      match fixedParts.lookup name with
      | some only => t.oneOf depth fun s => if s = only then some s else none
      | none => t.string)
    uriOfFields

/-- What a field of a subscription holds. -/
inductive Field where
  | schemaVersion (text : String)
  | types (types : List TelemetryType)
  | buffering (buffering : Buffering)
  | destination (uri : String)

def Field.names : List String := ["schemaVersion", "types", "buffering", "destination"]

def Field.read (depth : Nat) (name : String) (t : Tree) : Except Fault Field :=
  if name = "schemaVersion" then t.string.map .schemaVersion
  else if name = "types" then
    (t.items depth fun depth t => t.oneOf depth TelemetryType.ofName?).map .types
  else if name = "buffering" then (Buffering.read depth t).map .buffering
  else (readDestination depth t).map .destination

/-- The subscription that fields give, if none is missing. -/
def ofFields (fields : List (String × Field)) : Option Subscription :=
  match fields.lookup "schemaVersion", fields.lookup "types", fields.lookup "buffering",
      fields.lookup "destination" with
  | some (.schemaVersion schemaVersion), some (.types types), some (.buffering buffering),
      some (.destination uri) => some { schemaVersion, types, buffering, uri }
  | _, _, _, _ => none

def read (depth : Nat) (t : Tree) : Except Fault Subscription :=
  t.record depth Field.names Field.read ofFields

/-- The subscription a text describes. -/
def ofText (s : String) : Except Fault Subscription := (Document.ofText s).read read

end Subscription

end TelemetrySidecar

import TelemetrySidecar.Json.Decode

/-
  Buffering of telemetry

  Events are held back until there are enough of them, in number or in octets,
  or until enough time has passed. Each threshold has bounds.
-/

namespace TelemetrySidecar

/-- The thresholds at which held-back events are sent. -/
structure Buffering where
  maxItems : UInt32 := 1000
  maxBytes : UInt32 := 262144
  timeoutMs : UInt32 := 100
  deriving DecidableEq, Repr

namespace Buffering

inductive Threshold where
  | maxItems
  | maxBytes
  | timeoutMs
  deriving DecidableEq, Repr

namespace Threshold

def all : List Threshold := [maxItems, maxBytes, timeoutMs]

def name : Threshold → String
  | maxItems => "maxItems"
  | maxBytes => "maxBytes"
  | timeoutMs => "timeoutMs"

/-- The least and the greatest value that is accepted. -/
def bounds : Threshold → UInt32 × UInt32
  | maxItems => (1000, 10000)
  | maxBytes => (262144, 1048576)
  | timeoutMs => (25, 30000)

end Threshold

def get (b : Buffering) : Threshold → UInt32
  | .maxItems => b.maxItems
  | .maxBytes => b.maxBytes
  | .timeoutMs => b.timeoutMs

/-- Whether a threshold is within its bounds. -/
def fits (b : Buffering) (t : Threshold) : Bool :=
  t.bounds.1 ≤ b.get t && b.get t ≤ t.bounds.2

/-- The first threshold that is out of its bounds. -/
def outOfBounds? (b : Buffering) : Option Threshold := Threshold.all.find? fun t => !b.fits t

/-- What is wrong with a threshold that is out of its bounds. -/
def complaint (b : Buffering) (t : Threshold) : String :=
  t.name ++ " must be between " ++ toString t.bounds.1 ++ " and " ++ toString t.bounds.2
    ++ ", got " ++ toString (b.get t)

open Json

def value (b : Buffering) : Value :=
  .object (Threshold.all.map fun t => (t.name, .ofNat (b.get t).toNat))

/-- The thresholds that fields give, if none is missing. -/
def ofFields (fields : List (String × UInt32)) : Option Buffering := do
  return {
    maxItems := ← fields.lookup "maxItems"
    maxBytes := ← fields.lookup "maxBytes"
    timeoutMs := ← fields.lookup "timeoutMs" }

def read (depth : Nat) (t : Tree) : Except Fault Buffering :=
  t.record depth (Threshold.all.map Threshold.name)
    (fun _ _ t => (t.natBelow (Word.size 32)).map UInt32.ofNat) ofFields

end Buffering

end TelemetrySidecar

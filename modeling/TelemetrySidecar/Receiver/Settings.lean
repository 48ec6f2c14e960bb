import TelemetrySidecar.Configuration.Reading

/-
  Settings of the receiver

  The receiver has a section of its own in the configuration, which says the
  port it listens on. A section or a port that is not there is the standard one.
-/

namespace TelemetrySidecar

structure ReceiverSettings where
  /-- The port to listen on; zero leaves the choice to the system. -/
  port : Nat := 53612
  deriving DecidableEq, Repr

namespace ReceiverSettings

/-- Where the receiver's section stands in a configuration. -/
def path : String := "receivers::telemetryapi"

/-- The settings a section describes, if it is well-formed. -/
def ofNode (node : Node) : Option ReceiverSettings := do
  match ← node.field? "port" with
  | none => return {}
  | some value => return { port := (← value.port?).toNat }

/-- The settings in a configuration, if they are well-formed. -/
def ofConfiguration (c : Configuration) : Option ReceiverSettings :=
  match c.get? path with
  | none => some {}
  | some node => ofNode node

end ReceiverSettings

end TelemetrySidecar

import TelemetrySidecar.Address
import TelemetrySidecar.Telemetry.Subscription

/-
  Settings of the extension
-/

namespace TelemetrySidecar

/-- The name under which the extension registers. -/
structure ExtensionSettings where
  name : String := "otel-lambda-collector"
  deriving DecidableEq, Repr

/-- Where the collector's configuration comes from, and how long it may take to
start, in milliseconds. -/
structure CollectorSettings where
  configUris : List String := ["/opt/collector-config/config.yaml"]
  startupTimeoutMs : Nat := 10000
  deriving DecidableEq, Repr

/-- Whether and how to subscribe to telemetry. A subscription that is required
must succeed. -/
structure TelemetrySettings where
  enabled : Bool := true
  types : List TelemetryType := [.platform]
  timeoutMs : Nat := 1000
  required : Bool := false
  deriving DecidableEq, Repr

structure Settings where
  extension : ExtensionSettings := {}
  /-- The address of the interface the extension runs under. -/
  runtimeApi : Option String := none
  collector : CollectorSettings := {}
  telemetry : TelemetrySettings := {}
  deriving DecidableEq, Repr

/-- The web address of the interface the extension runs under. -/
def Settings.runtimeUrl (s : Settings) : Option String := s.runtimeApi.map Address.base

end TelemetrySidecar

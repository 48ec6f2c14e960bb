import TelemetrySidecar.Configuration.Document
import TelemetrySidecar.Configuration.Queues
import TelemetrySidecar.Configuration.Reference
import TelemetrySidecar.Resolution.Provider

/-
  Converters

  A converter changes a configuration after all its sources were merged.
-/

namespace TelemetrySidecar

/-- A named change of configurations. -/
structure Converter (m : Type → Type) where
  name : String
  convert : Configuration → Resolving m Configuration

namespace Converter

variable {m : Type → Type} [Monad m]

/-- Puts in the variables that strings refer to. -/
def expansion (env : Environment) : Converter m where
  name := "expand"
  convert c := pure (c.expand env)

/-- Switches off the queues and retries of all exporters. -/
def quietExporters : Converter m where
  name := "disable_queued_retry"
  convert c :=
    match c.quietExporters? with
    | some c => pure c
    | none => throw (.converter "disable_queued_retry" "exporters must be a map")

end Converter

/-- The configuration that a document from a source describes. -/
def Configuration.ofSource (uri text : String) : Except ResolveError Configuration :=
  match Configuration.ofYaml text with
  | .ok c => .ok c
  | .error (.yaml fault) => .error (.notYaml uri fault)
  | .error .notAMapping => .error (.notAMapping uri)

end TelemetrySidecar

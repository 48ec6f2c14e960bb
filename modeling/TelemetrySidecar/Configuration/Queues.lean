import TelemetrySidecar.Configuration.Basic

/-
  Exporters without queues

  Work that waits is lost when the process is frozen, so every exporter has its
  sending queue and its retries switched off.
-/

namespace TelemetrySidecar.Configuration

/-- The configuration with the queue and the retries of one exporter switched
off; an exporter that is no mapping becomes one. -/
def quietExporter (c : Configuration) (name : String) : Configuration :=
  let base := KeyPath.join ["exporters", name]
  let c := match c.get? base with
    | some (.map _) => c
    | _ => c.set base (.map [])
  let c := c.set (KeyPath.join [base, "sending_queue", "enabled"]) (.bool false)
  c.set (KeyPath.join [base, "retry_on_failure", "enabled"]) (.bool false)

/-- The configuration with the queues and retries of all exporters switched off;
`none` if there are exporters that are no mapping. -/
def quietExporters? (c : Configuration) : Option Configuration :=
  match c.get? "exporters" with
  | none | some .null => some c
  | some (.map exporters) => some ((exporters.filterMap (·.1.text?)).foldl quietExporter c)
  | some _ => none

end TelemetrySidecar.Configuration

/-
  Build information

  What a build says about itself.
-/

namespace TelemetrySidecar

/-- Name, purpose and version of a build, with the commit it was made from. -/
structure BuildInfo where
  command : String := "otelcol-lambda"
  description : String := "Lambda Collector"
  version : String := "0.1.0"
  commit : Option String := none
  deriving DecidableEq, Repr

namespace BuildInfo

/-- A build made from a commit. -/
def withCommit (info : BuildInfo) (hash : String) : BuildInfo := { info with commit := some hash }

/-- The line that names a build: the commit in brackets, if there is one. -/
def line (info : BuildInfo) : String :=
  match info.commit with
  | none => info.command ++ " " ++ info.version
  | some hash => info.command ++ " " ++ info.version ++ " (" ++ hash ++ ")"

end BuildInfo

end TelemetrySidecar

import TelemetrySidecar.Extension.Run.Course
import TelemetrySidecar.Settings.Complaint

/-
  The command

  The command loads its settings and makes one run. What fails is told with all
  that lies behind it, the nearest cause first.
-/

namespace TelemetrySidecar

namespace CommandLine

/-- Where the command looks for its settings. -/
def settingsPath : String := "/opt/otel-lambda-collector.toml"

/-- The files that the sources of the settings name. -/
def sourceFiles (settings : Settings) : List String :=
  (settings.collector.configUris.filter fun uri => SourceUri.scheme uri == "file").map
    (SourceUri.without "file")

/-- What the command leaves behind: a code, and what it says about a failure. -/
structure Exit where
  code : UInt32 := 0
  complaint : String := ""
  deriving DecidableEq, Repr

/-- A text of several lines, all but the first one indented. -/
def indented (width : Nat) (s : String) : String :=
  s.replace "\n" ("\n" ++ String.ofList (List.replicate width ' '))

/-- A list of causes, numbered if there are several. -/
def listed : List String → String
  | [] => ""
  | [cause] => "\n\nCaused by:\n    " ++ indented 4 cause
  | causes => "\n\nCaused by:" ++ String.join (causes.zipIdx.map fun c =>
      "\n" ++ String.ofList (List.replicate (5 - (toString c.2).length) ' ') ++ toString c.2 ++ ": "
        ++ indented 7 c.1)

/-- A failure and what lies behind it. -/
def failure (what : String) (causes : List String) : Exit :=
  { code := 1, complaint := "Error: " ++ what ++ listed causes ++ "\n" }

/-- What is left behind by a run with a result. -/
def exitOf : RunResult → Exit
  | .ok () => {}
  | .error e => failure "extension runtime failed" e.causes

/-- The command: its exit, if it comes to one in the number of steps given, and
the exchanges it had. -/
def run (around : Resolver.Surroundings) (out : ExtensionRun.Outside) (steps : Nat) :
    Option Exit × Log :=
  match Settings.load around.files settingsPath around.env with
  | .error e =>
    let complaint := Settings.complaint around.files settingsPath around.env e
    (some (failure "failed to load configuration" [complaint]), [])
  | .ok settings =>
    let r := (ExtensionRun.ofSettings settings).course around out steps
    (r.result?.map exitOf, r.log)

end CommandLine

end TelemetrySidecar

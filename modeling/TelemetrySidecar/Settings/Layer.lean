import TelemetrySidecar.Environment
import TelemetrySidecar.Files
import TelemetrySidecar.Settings.Inline
import TelemetrySidecar.Settings.Reading
import TelemetrySidecar.Toml.Document

/-
  Layers of settings

  Settings come from four layers, each laid over the one before: defaults, a
  file, two variables that other programs know as well, and variables of the
  extension's own, whose names begin with a mark and name a path of keys.
-/

namespace TelemetrySidecar.Settings

open Setting (Table)

/-- The defaults as a table. -/
def defaultLayer : Table :=
  let s : Settings := {}
  [("collector", .table [
      ("config_uris", .list (s.collector.configUris.map .text)),
      ("startup_timeout", .int false s.collector.startupTimeoutMs)]),
    ("extension", .table [("name", .text s.extension.name)]),
    ("runtime_api", .absent),
    ("telemetry_api", .table [
      ("enabled", .bool s.telemetry.enabled),
      ("required", .bool s.telemetry.required),
      ("timeout", .int false s.telemetry.timeoutMs),
      ("types", .list (s.telemetry.types.map fun t => .text t.name))])]

/-- The table in a file. A file that is not there gives none, and so does a
directory. -/
def fileLayer (files : Files) (path : String) : Except SettingsError Table :=
  match files.readText path with
  | .ok text =>
    match Toml.ofText? text.toList with
    | some entries => .ok (Setting.ofEntries entries)
    | none => .error ⟨[], .badDocument⟩
  | .error .invalidData => .error ⟨[], .badDocument⟩
  | .error _ => .ok []

def runtimeVariable : String := "AWS_LAMBDA_RUNTIME_API"

def configVariable : String := "OPENTELEMETRY_COLLECTOR_CONFIG_FILE"

/-- The two well-known variables. One that is empty, or blank where it names a
source, counts as not set. -/
def standardLayer (env : Environment) : Table :=
  let collector : Table :=
    match (env.text? configVariable).map Text.trimmed with
    | some uri => if uri.isEmpty then [] else [("collector", .table [("config_uris", .list [.text uri])])]
    | none => []
  let runtime : Table :=
    match env.text? runtimeVariable with
    | some address => if address.isEmpty then [] else [("runtime_api", .text address)]
    | none => []
  collector ++ runtime

/-- What the names of the extension's own variables begin with. -/
def mark : String := "OTEL_LAMBDA_"

/-- The text with every pair of underscores as one dot. -/
def dotted : List Char → List Char
  | '_' :: '_' :: s => '.' :: dotted s
  | c :: s => c :: dotted s
  | [] => []

/-- The path of keys that a variable's name gives, if it begins with the mark in
any case. Every key must have at least one character. -/
def path? (name : String) : Option (List String) :=
  let cs := Text.trim name.toList
  let lead := mark.toList
  if (cs.take lead.length).map Char.toUpper != lead then none
  else
    let rest := Text.trim (dotted (cs.drop lead.length))
    let keys := Text.pieces '.' (rest.map Char.toLower)
    if keys.any List.isEmpty then none else some (keys.map String.ofList)

/-- The extension's own variables, one laid over another in the order of the
environment. -/
def ownLayer (env : Environment) : Table :=
  env.entries.foldl (fun t v =>
    match path? v.1 with
    | none => t
    | some path =>
      match Setting.nested path (Setting.ofText (String.ofList (Text.decodeLossy v.2))) with
      | .table entries => Setting.tableOver t entries
      | _ => t) []

/-- All layers, one laid over another. -/
def layers (files : Files) (path : String) (env : Environment) : Except SettingsError Table :=
  (fileLayer files path).map fun file =>
    [file, standardLayer env, ownLayer env].foldl Setting.tableOver defaultLayer

/-- The settings that a file and an environment give. -/
def load (files : Files) (path : String) (env : Environment) : Except SettingsError Settings :=
  match layers files path env with
  | .error e => .error e
  | .ok table => Setting.readSettings table

end TelemetrySidecar.Settings

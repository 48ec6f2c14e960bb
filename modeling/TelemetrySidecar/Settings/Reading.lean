import TelemetrySidecar.Settings.Basic
import TelemetrySidecar.Settings.Error

/-
  Settings from values

  A section is read from a table in the order of its keys, where unknown keys do
  not matter, or from a list of its fields in order. What is missing keeps its
  default.
-/

namespace TelemetrySidecar.Setting

/-- What is read of a value. -/
abbrev Reading (α : Type) := Setting → Except SettingsError α

def fail {α : Type} (cause : SettingsCause) : Except SettingsError α := .error ⟨[], cause⟩

/-- The error of a value that is not what is expected. -/
def mismatch {α : Type} (v : Setting) (expected : String) : Except SettingsError α :=
  fail (.invalidType (.ofSetting v) expected)

/-- What is read of the value under a key. -/
def under {α : Type} (key : String) (r : Except SettingsError α) : Except SettingsError α :=
  r.mapError (SettingsError.under key)

def readText : Reading String
  | text s => .ok s
  | char c => .ok (String.singleton c)
  | v => mismatch v "a string"

def readBool : Reading Bool
  | bool b => .ok b
  | v => mismatch v "a boolean"

/-- A count of milliseconds. -/
def readMillis : Reading Nat
  | int signed i =>
    if 0 ≤ i then .ok i.toNat
    else fail (.invalidValue (.ofSetting (int signed i)) "u64")
  | v => mismatch v "u64"

/-- An optional string. -/
def readOptional : Reading (Option String)
  | absent => .ok none
  | v => (readText v).map some

/-- The items of a list from the place given on. -/
def readItems {α : Type} (read : Reading α) (place : Nat) : List Setting →
    Except SettingsError (List α)
  | [] => .ok []
  | item :: rest => do
    let a ← under (toString place) (read item)
    let more ← readItems read (place + 1) rest
    return a :: more

def readList {α : Type} (read : Reading α) : Reading (List α)
  | list items => readItems read 0 items
  | v => mismatch v "a sequence"

/-- A type of telemetry: its name, or a table whose first key is its name. No
value can stand under that key. -/
def readType : Reading TelemetryType
  | text s => named s
  | table [] => fail (.invalidType .map "enum")
  | table ((key, value) :: _) => do
    let type ← named key
    match value with
    | absent => return type
    | value => under key (mismatch value "unit")
  | v => mismatch v "enum TelemetryType"
where
  named (name : String) : Except SettingsError TelemetryType :=
    match TelemetryType.ofName? name with
    | some t => .ok t
    | none => fail (.unknownVariant name (TelemetryType.all.map TelemetryType.name))

/-- Fields read one after another, each under its key. -/
def readFields {σ : Type} (set : String → Setting → σ → Except SettingsError σ) :
    List (String × String × Setting) → σ → Except SettingsError σ
  | [], s => .ok s
  | (place, key, value) :: rest, s => do
    let s ← under place (set key value s)
    readFields set rest s

/-- A section whose fields are `names`, from its defaults. -/
def readSection {σ : Type} (what : String) (names : List String)
    (set : String → Setting → σ → Except SettingsError σ) (start : σ) : Reading σ
  | table entries => readFields set (entries.map fun e => (e.1, e.1, e.2)) start
  | list items =>
    let fields := (names.zip items).zipIdx.map fun p => (toString p.2, p.1.1, p.1.2)
    readFields set fields start
  | v => mismatch v ("struct " ++ what)

def setExtension (key : String) (v : Setting) (s : ExtensionSettings) :
    Except SettingsError ExtensionSettings :=
  match key with
  | "name" => do return { s with name := ← readText v }
  | _ => .ok s

def setCollector (key : String) (v : Setting) (s : CollectorSettings) :
    Except SettingsError CollectorSettings :=
  match key with
  | "config_uris" => do return { s with configUris := ← readList readText v }
  | "startup_timeout" => do return { s with startupTimeoutMs := ← readMillis v }
  | _ => .ok s

def setTelemetry (key : String) (v : Setting) (s : TelemetrySettings) :
    Except SettingsError TelemetrySettings :=
  match key with
  | "enabled" => do return { s with enabled := ← readBool v }
  | "types" => do return { s with types := ← readList readType v }
  | "timeout" => do return { s with timeoutMs := ← readMillis v }
  | "required" => do return { s with required := ← readBool v }
  | _ => .ok s

def readExtension : Reading ExtensionSettings :=
  readSection "ExtensionConfig" ["name"] setExtension {}

def readCollector : Reading CollectorSettings :=
  readSection "CollectorConfig" ["config_uris", "startup_timeout"] setCollector {}

def readTelemetry : Reading TelemetrySettings :=
  readSection "TelemetryApiConfig" ["enabled", "types", "timeout", "required"] setTelemetry {}

def setTop (key : String) (v : Setting) (s : Settings) : Except SettingsError Settings :=
  match key with
  | "extension" => do return { s with extension := ← readExtension v }
  | "runtime_api" => do return { s with runtimeApi := ← readOptional v }
  | "collector" => do return { s with collector := ← readCollector v }
  | "telemetry_api" => do return { s with telemetry := ← readTelemetry v }
  | _ => .ok s

/-- The settings that a table gives. -/
def readSettings (t : Table) : Except SettingsError Settings :=
  readFields setTop (t.map fun e => (e.1, e.1, e.2)) {}

end TelemetrySidecar.Setting

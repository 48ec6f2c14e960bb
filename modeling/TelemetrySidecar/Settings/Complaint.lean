import TelemetrySidecar.Settings.Layer

/-
  Complaints about settings

  An error of the settings is told with the keys that lead to the value and the
  layer that gives it.
-/

namespace TelemetrySidecar.Settings

/-- The value at a path of keys, if there is one; the items of a list have their
places as keys. -/
def reach? : List String → Setting → Option Setting
  | [], v => some v
  | key :: rest, .table entries => (entries.lookup key).bind (reach? rest)
  | key :: rest, .list items => ((key.toNat?).bind fun i => items[i]?).bind (reach? rest)
  | _ :: _, _ => none

/-- Whether a layer gives a value at a path of keys. -/
def gives (layer : Setting.Table) (keys : List String) : Bool := (reach? keys (.table layer)).isSome

/-- Where a value comes from: the keys as its layer spells them, and the layer. -/
def origin (files : Files) (path : String) (env : Environment) (keys : List String) : String :=
  let own := gives (ownLayer env) keys
  let key :=
    if own then ".".intercalate (keys.map String.toUpper) else ".".intercalate ("default" :: keys)
  let layer :=
    if own then " in \x60" ++ mark ++ "\x60 environment variable(s)"
    else if files.has path then " in " ++ path ++ " TOML file"
    else ""
  (if keys.isEmpty then "" else " for key " ++ Text.quoted key) ++ layer

/-- An error in one line. -/
def complaint (files : Files) (path : String) (env : Environment) (e : SettingsError) : String :=
  e.cause.message.getD "invalid document" ++ origin files path env e.path

end TelemetrySidecar.Settings

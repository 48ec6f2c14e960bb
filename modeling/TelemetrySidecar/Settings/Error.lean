import TelemetrySidecar.Binary64.DecimalText
import TelemetrySidecar.Settings.Value
import TelemetrySidecar.Text.Quoted

/-
  Why settings cannot be read
-/

namespace TelemetrySidecar

/-- What was found instead of what was expected. -/
inductive Found where
  | unit
  | bool (value : Bool)
  | signed (value : Int)
  | unsigned (value : Int)
  | float (value : Binary64)
  | char (value : Char)
  | text (value : String)
  | sequence
  | map
  deriving DecidableEq, Repr

namespace Found

def ofSetting : Setting → Found
  | .absent => unit
  | .bool b => bool b
  | .int true i => signed i
  | .int false i => unsigned i
  | .float x => float x
  | .char c => char c
  | .text s => text s
  | .list _ => sequence
  | .table _ => map

/-- A character between single quotes. -/
def quotedChar (c : Char) : String :=
  let inside :=
    if c = '\'' then ['\\', '\'']
    else if c = '"' then ['"']
    else Text.quotedChar c
  String.ofList (['\''] ++ inside ++ ['\''])

def name : Found → String
  | unit => "unit"
  | bool b => "bool " ++ (if b then "true" else "false")
  | signed i => "signed int \x60" ++ toString i ++ "\x60"
  | unsigned i => "unsigned int \x60" ++ toString i ++ "\x60"
  | float x => "float \x60" ++ x.text ++ "\x60"
  | char c => "char " ++ quotedChar c
  | text s => "string " ++ Text.quoted s
  | sequence => "sequence"
  | map => "map"

end Found

/-- The causes for which settings cannot be read. -/
inductive SettingsCause where
  /-- The file cannot be read, or is no document. -/
  | badDocument
  | invalidType (found : Found) (expected : String)
  | invalidValue (found : Found) (expected : String)
  | unknownVariant (found : String) (expected : List String)
  deriving DecidableEq, Repr

namespace SettingsCause

/-- One or several names, each marked. -/
def oneOf : List String → String
  | [] => "nothing"
  | [a] => "\x60" ++ a ++ "\x60"
  | [a, b] => "\x60" ++ a ++ "\x60 or \x60" ++ b ++ "\x60"
  | names => "one of " ++ ", ".intercalate (names.map fun n => "\x60" ++ n ++ "\x60")

/-- The wording of each cause; what is wrong with a document is not said. -/
def message : SettingsCause → Option String
  | badDocument => none
  | invalidType found expected =>
    some ("invalid type: found " ++ found.name ++ ", expected " ++ expected)
  | invalidValue found expected =>
    some ("invalid value " ++ found.name ++ ", expected " ++ expected)
  | unknownVariant found expected =>
    some ("unknown variant: found \x60" ++ found ++ "\x60, expected \x60" ++ oneOf expected ++ "\x60")

end SettingsCause

/-- A cause, and the keys that lead to the value it is about. -/
structure SettingsError where
  path : List String
  cause : SettingsCause
  deriving DecidableEq, Repr

/-- The error as seen from the table that holds the value under a key. -/
def SettingsError.under (key : String) (e : SettingsError) : SettingsError :=
  { e with path := key :: e.path }

end TelemetrySidecar

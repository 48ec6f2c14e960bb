import TelemetrySidecar.Text.Utf8

/-
  The process environment

  Variables in the order they are listed, each a name and octets that need not
  be text.
-/

namespace TelemetrySidecar

/-- The variables a process sees. -/
structure Environment where
  entries : List (String × List UInt8)

namespace Environment

/-- No variable at all. -/
def empty : Environment := ⟨[]⟩

/-- The octets of a variable. -/
def octets? (env : Environment) (name : String) : Option (List UInt8) := env.entries.lookup name

/-- Whether the variable is set, to whatever octets. -/
def isSet (env : Environment) (name : String) : Bool := (env.octets? name).isSome

/-- The text of a variable; `none` if it is unset or not text. -/
def text? (env : Environment) (name : String) : Option String :=
  (env.octets? name).bind fun octets => (Text.decode? octets).map String.ofList

end Environment

end TelemetrySidecar

import TelemetrySidecar.Environment
import TelemetrySidecar.Text.Cut

/-
  Addresses

  The web addresses a process is told and tells: the base of the interface it
  runs under, and where a listener of its own can be reached.
-/

namespace TelemetrySidecar.Address

/-- Whether a text begins with the name of a web protocol. -/
def hasProtocol (s : List Char) : Bool :=
  (Text.dropLead "http://".toList s).isSome || (Text.dropLead "https://".toList s).isSome

/-- An address without slashes at its end, as a web address. -/
def baseOf (s : List Char) : List Char :=
  let s := Text.dropEnd '/' s
  if hasProtocol s then s else "http://".toList ++ s

/-- The base of the web addresses under an address. -/
def base (address : String) : String := String.ofList (baseOf address.toList)

/-- A resource of one version of an interface, below an address that may end in
slashes. -/
def below (url version resource : String) : String :=
  String.ofList (Text.dropEnd '/' url.toList) ++ "/" ++ version ++ "/" ++ resource

/-- The name under which the sandbox reaches its own processes. -/
def sandboxHost : String := "sandbox.localdomain"

/-- Whether the process runs where functions are hosted. -/
def isHosted (env : Environment) : Bool := env.isSet "AWS_LAMBDA_FUNCTION_NAME"

/-- Where a listener on a port can be reached. -/
def listener (env : Environment) (port : Nat) : String :=
  "http://" ++ (if isHosted env then sandboxHost else "127.0.0.1") ++ ":" ++ toString port

end TelemetrySidecar.Address

import TelemetrySidecar.Json.Decode

/-
  Registrations of an extension

  What the platform says about the function when an extension registers.
-/

namespace TelemetrySidecar

/-- The identifier that was issued, and the function that the extension runs
beside. -/
structure Registration where
  extensionId : String := ""
  functionName : Option String := none
  functionVersion : Option String := none
  handler : Option String := none
  deriving DecidableEq, Repr

namespace Registration

open Json

def fieldNames : List String := ["functionName", "functionVersion", "handler"]

/-- The registration that fields give; what is missing is not known. -/
def ofFields (fields : List (String × Option String)) : Registration :=
  let field (name : String) : Option String := (fields.lookup name).join
  { functionName := field "functionName"
    functionVersion := field "functionVersion"
    handler := field "handler" }

def read (depth : Nat) (t : Tree) : Except Fault Registration :=
  t.record depth fieldNames (fun _ _ t => t.optionalString) fun fields => some (ofFields fields)

/-- The registration a text describes, as yet without an identifier. -/
def ofText (s : String) : Except Fault Registration := (Document.ofText s).read read

end Registration

end TelemetrySidecar

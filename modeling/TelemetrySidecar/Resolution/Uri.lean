import TelemetrySidecar.Text.Cut

/-
  Addresses of sources

  The address of a configuration source begins with the name of its scheme and
  a colon; an address that begins with no such name is the path of a file.
-/

namespace TelemetrySidecar.SourceUri

/-- Whether a text is the name of a scheme: at least two characters, a letter
first. -/
def isScheme : List Char → Bool
  | c :: d :: rest =>
    c.isAlpha && (d :: rest).all fun x => x.isAlphanum || x == '+' || x == '-' || x == '.'
  | _ => false

/-- The scheme of paths without one. -/
def fileScheme : List Char := "file".toList

/-- The scheme of an address. -/
def schemeOf (uri : List Char) : List Char :=
  match Text.cut [':'] uri with
  | some (lead, _) => if isScheme lead then lead else fileScheme
  | none => fileScheme

/-- What follows a scheme and its colon, or the whole address if it does not
begin with them. -/
def payload (scheme uri : List Char) : List Char :=
  (Text.dropLead (scheme ++ [':']) uri).getD uri

/-- The scheme of an address. -/
def scheme (uri : String) : String := String.ofList (schemeOf uri.toList)

/-- The address without a scheme. -/
def without (scheme uri : String) : String := String.ofList (payload scheme.toList uri.toList)

end TelemetrySidecar.SourceUri

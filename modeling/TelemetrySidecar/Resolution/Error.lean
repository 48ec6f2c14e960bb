import TelemetrySidecar.Files
import TelemetrySidecar.Yaml.Cursor

/-
  Why a configuration cannot be resolved
-/

namespace TelemetrySidecar

/-- The causes for which resolving a configuration fails. -/
inductive ResolveError where
  | noSources
  | unsupportedScheme (uri scheme : String)
  | invalidUri (uri reason : String)
  | variableNotSet (uri name : String)
  | unreadable (uri : String) (fault : FileFault)
  | notYaml (uri : String) (fault : Yaml.Fault)
  | notAMapping (uri : String)
  | notFetched (uri : String)
  | badStatus (uri : String) (status : Nat)
  | objectNotFetched (uri : String)
  | converter (name message : String)
  deriving DecidableEq, Repr

/-- The wording of each cause. -/
def ResolveError.message : ResolveError → String
  | noSources => "no configuration URIs provided"
  | unsupportedScheme uri scheme =>
    "unsupported scheme \"" ++ scheme ++ "\" in configuration URI " ++ uri
  | invalidUri uri reason => "invalid configuration URI " ++ uri ++ ": " ++ reason
  | variableNotSet uri name =>
    "environment variable " ++ name ++ " referenced by " ++ uri ++ " is not set"
  | unreadable uri _ => "failed to read configuration from " ++ uri
  | notYaml uri _ => "failed to parse configuration from " ++ uri
  | notAMapping uri => "configuration from " ++ uri ++ " is not a map"
  | notFetched uri | objectNotFetched uri => "failed to fetch configuration from " ++ uri
  | badStatus uri status =>
    "fetching configuration from " ++ uri ++ " returned status " ++ toString status
  | converter name message => "converter " ++ name ++ " failed: " ++ message

end TelemetrySidecar

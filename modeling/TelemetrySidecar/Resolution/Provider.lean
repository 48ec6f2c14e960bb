import TelemetrySidecar.Environment
import TelemetrySidecar.Http.Client
import TelemetrySidecar.Resolution.Bucket
import TelemetrySidecar.Resolution.Error
import TelemetrySidecar.Resolution.Uri

/-
  Providers

  A provider gives the document behind the addresses of one scheme. What it does
  for that happens in a monad of its own choice.
-/

namespace TelemetrySidecar

/-- What a source's retrieval or a conversion gives, within some monad. -/
abbrev Resolving (m : Type → Type) := ExceptT ResolveError m

structure Provider (m : Type → Type) where
  scheme : String
  retrieve : String → Resolving m String

namespace Provider

variable {m : Type → Type} [Monad m]

/-- Documents in files. -/
def file (files : Files) : Provider m where
  scheme := "file"
  retrieve uri :=
    match files.readText (SourceUri.without "file" uri) with
    | .ok text => pure text
    | .error fault => throw (.unreadable uri fault)

/-- Documents in variables. -/
def environment (env : Environment) : Provider m where
  scheme := "env"
  retrieve uri :=
    let name := SourceUri.without "env" uri
    if name.isEmpty then throw (.invalidUri uri "missing environment variable name")
    else match env.text? name with
      | some text => pure text
      | none => throw (.variableNotSet uri name)

/-- Documents that are written in the address. -/
def inlineText : Provider m where
  scheme := "yaml"
  retrieve uri := pure (SourceUri.without "yaml" uri)

/-- Documents on the web. -/
def web (host : Host) (scheme : String) : Provider Talk where
  scheme := scheme
  retrieve uri := do
    match ← ExceptT.lift (Http.send host false "GET" uri [] []) with
    | .error _ => throw (.notFetched uri)
    | .ok response =>
      if response.status < 200 || 300 ≤ response.status then
        throw (.badStatus uri response.status)
      else match response.text with
        | .ok text => pure text
        | .error _ => throw (.notFetched uri)

/-- The variable that says where the object store is reached. -/
def storeVariable : String := "AWS_ENDPOINT_URL"

/-- Documents in an object store, which is asked at the address that the
environment gives for it. -/
def objects (host : Host) (env : Environment) : Provider Talk where
  scheme := "s3"
  retrieve uri :=
    match ObjectPlace.read uri.toList with
    | .error fault => throw (.invalidUri uri fault.reason)
    | .ok place => do
      let store := (env.text? storeVariable).getD
        (String.ofList ("https://s3.".toList ++ place.region ++ ObjectPlace.domain))
      let address := store ++ "/" ++ String.ofList place.bucket ++ "/" ++ String.ofList place.key
        ++ "?x-id=GetObject"
      match ← ExceptT.lift (Http.send host false "GET" address [] []) with
      | .error _ => throw (.objectNotFetched uri)
      | .ok response =>
        let found := 200 ≤ response.status && response.status < 300 && response.complete
        match if found then Text.decode? response.body else none with
        | some text => pure (String.ofList text)
        | none => throw (.objectNotFetched uri)

end Provider

end TelemetrySidecar

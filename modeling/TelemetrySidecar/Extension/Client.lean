import TelemetrySidecar.Address
import TelemetrySidecar.Extension.Event
import TelemetrySidecar.Extension.Registration
import TelemetrySidecar.Http.Client
import TelemetrySidecar.Text.Blank

/-
  The extension interface

  An extension registers once and then asks again and again for the next event
  of its life. The identifier that a registration brings goes with every later
  request.
-/

namespace TelemetrySidecar

/-- Why a request to the extension interface failed. -/
inductive ExtensionError where
  | unanswered (endpoint : String) (fault : HttpFault)
  | badStatus (endpoint : String) (status : Nat) (body : String)
  | noIdentifier
  | notRegistered
  | notDecoded (endpoint : String) (fault : Json.Fault)
  deriving DecidableEq, Repr

def ExtensionError.message : ExtensionError → String
  | unanswered endpoint _ => "request to " ++ endpoint ++ " failed"
  | badStatus endpoint status body =>
    "request to " ++ endpoint ++ " failed: " ++ toString status ++ " " ++ body
  | noIdentifier => "registration response is missing the Lambda-Extension-Identifier header"
  | notRegistered => "extension is not registered"
  | notDecoded endpoint _ => "failed to decode response from " ++ endpoint

/-- The header field that carries the identifier of an extension. -/
def identifierField : String := "Lambda-Extension-Identifier"

/-- The header field that carries the name of an extension. -/
def nameField : String := "Lambda-Extension-Name"

/-- The header field that says that a body is JSON. -/
def jsonContent : String × List UInt8 := ("content-type", Text.encode "application/json")

/-- A client of the extension interface below some address. -/
structure ExtensionClient where
  runtimeUrl : String
  /-- The identifier of the last registration that succeeded. -/
  identifier : Option String := none
  deriving DecidableEq, Repr

namespace ExtensionClient

def version : String := "2020-01-01"

def endpoint (client : ExtensionClient) (resource : String) : String :=
  Address.below client.runtimeUrl version ("extension/" ++ resource)

/-- The text of a header field, if it is visible text. -/
def visibleText? (octets : List UInt8) : Option String :=
  if octets.all fun b => b == 9 || (32 ≤ b.toNat && b.toNat < 127) then
    some (String.ofList (octets.map fun b => Char.ofNat b.toNat))
  else none

/-- The events an extension registers for. -/
def wantedEvents : Json.Value :=
  .object [("events", .list (LifecycleEvent.Kind.all.map fun kind => .text kind.name))]

/-- The body of a response of status 200. -/
def bodyOf (endpoint : String) (response : Response) : Except ExtensionError String := do
  let body ← response.text.mapError (.unanswered endpoint)
  if response.status = 200 then return body
  throw (.badStatus endpoint response.status body)

/-- The registration that a response gives. The identifier is the header's,
whatever the body says. -/
def registrationOf (endpoint : String) (response : Response) :
    Except ExtensionError Registration := do
  let body ← bodyOf endpoint response
  match (response.headers.find? identifierField).bind visibleText? with
  | none => throw .noIdentifier
  | some extensionId =>
    let registration ←
      if Text.allBlank body.toList then pure {}
      else (Registration.ofText body).mapError (.notDecoded endpoint)
    return { registration with extensionId }

/-- Registers under a name. Only a registration that succeeds changes the
client. -/
def register (host : Host) (client : ExtensionClient) (name : String) :
    Talk (Except ExtensionError Registration × ExtensionClient) := do
  let endpoint := client.endpoint "register"
  let headers := [(nameField, Text.encode name), jsonContent]
  match ← Http.send host false "POST" endpoint headers (Text.encode wantedEvents.toText) with
  | .error fault => return (.error (.unanswered endpoint fault), client)
  | .ok response =>
    match registrationOf endpoint response with
    | .error e => return (.error e, client)
    | .ok registration =>
      return (.ok registration, { client with identifier := some registration.extensionId })

/-- The event that a response gives. -/
def eventOf (endpoint : String) (response : Response) : Except ExtensionError LifecycleEvent := do
  let body ← bodyOf endpoint response
  (LifecycleEvent.ofText body).mapError (.notDecoded endpoint)

/-- Asks for the next event, and waits for it as long as it takes. -/
def nextEvent (host : Host) (client : ExtensionClient) :
    Talk (Except ExtensionError LifecycleEvent) := do
  match client.identifier with
  | none => return .error .notRegistered
  | some identifier =>
    let endpoint := client.endpoint "event/next"
    match ← Http.send host false "GET" endpoint [(identifierField, Text.encode identifier)] [] with
    | .error fault => return .error (.unanswered endpoint fault)
    | .ok response => return eventOf endpoint response

end ExtensionClient

end TelemetrySidecar

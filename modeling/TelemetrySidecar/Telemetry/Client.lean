import TelemetrySidecar.Address
import TelemetrySidecar.Extension.Client
import TelemetrySidecar.Http.Status
import TelemetrySidecar.Telemetry.Subscription

/-
  The telemetry interface

  One request tells the platform where telemetry is to be sent. It is made once:
  whatever comes of it is the answer.
-/

namespace TelemetrySidecar

/-- Why a subscription failed. -/
inductive SubscriptionError where
  | badBuffering (buffering : Buffering) (threshold : Buffering.Threshold)
  | unanswered (endpoint : String) (fault : HttpFault)
  | bodyCut (endpoint : String) (status : Nat) (fault : HttpFault)
  | badStatus (endpoint : String) (status : Nat) (body : String)
  | notSupported (endpoint : String)
  deriving DecidableEq, Repr

def SubscriptionError.message : SubscriptionError → String
  | badBuffering buffering threshold =>
    "invalid buffering configuration: " ++ buffering.complaint threshold
  | unanswered endpoint _ => "request to " ++ endpoint ++ " failed"
  | bodyCut endpoint status _ => failed endpoint status
  | badStatus endpoint status body => failed endpoint status ++ " " ++ body
  | notSupported endpoint =>
    "Telemetry API is not supported at " ++ endpoint ++ "; running in a local sandbox?"
where
  failed (endpoint : String) (status : Nat) : String :=
    "request to " ++ endpoint ++ " failed: " ++ toString status ++ "[" ++
      Http.statusLine status ++ "]"

/-- A client of the telemetry interface below some address. -/
structure SubscriptionClient where
  runtimeUrl : String
  types : List TelemetryType
  buffering : Buffering := {}
  deriving DecidableEq, Repr

namespace SubscriptionClient

def version : String := "2022-07-01"

def endpoint (client : SubscriptionClient) : String :=
  Address.below client.runtimeUrl version "telemetry"

/-- The subscription of events to an address. -/
def subscription (client : SubscriptionClient) (uri : String) : Subscription :=
  { types := client.types, buffering := client.buffering, uri }

/-- What a response says about the subscription. That there is no telemetry
shows before the body is read. -/
def answerOf (endpoint : String) (response : Response) : Except SubscriptionError String :=
  if response.status = 202 then .error (.notSupported endpoint)
  else match response.text with
    | .error fault => .error (.bodyCut endpoint response.status fault)
    | .ok body =>
      if response.status = 200 then .ok body
      else .error (.badStatus endpoint response.status body)

/-- Subscribes an extension, and waits for the answer only for some time. -/
def subscribe (host : Host) (client : SubscriptionClient) (identifier uri : String) :
    Talk (Except SubscriptionError String) := do
  match client.buffering.outOfBounds? with
  | some threshold => return .error (.badBuffering client.buffering threshold)
  | none =>
    let headers := [(identifierField, Text.encode identifier), jsonContent]
    let body := Text.encode (client.subscription uri).value.toText
    match ← Http.send host true "PUT" client.endpoint headers body with
    | .error fault => return .error (.unanswered client.endpoint fault)
    | .ok response => return answerOf client.endpoint response

end SubscriptionClient

end TelemetrySidecar

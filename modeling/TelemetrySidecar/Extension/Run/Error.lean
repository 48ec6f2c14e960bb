import TelemetrySidecar.Extension.Client
import TelemetrySidecar.Receiver.Service
import TelemetrySidecar.Resolution.Error
import TelemetrySidecar.Service.Coordinator
import TelemetrySidecar.Telemetry.Client

/-
  Why a run of the extension fails

  Each stage of a run has its own failures, and each failure may have a cause in
  the stage's own terms, and that again one.
-/

namespace TelemetrySidecar

/-- Why a run failed. -/
inductive RunError where
  | noRuntimeApi
  | notRegistered (error : ExtensionError)
  | notResolved (error : ResolveError)
  | notStarted (error : CoordinatorError ReceiverError)
  | notStopped (error : CoordinatorError ReceiverError)
  | notSubscribed (error : SubscriptionError)
  | noListener
  | noEvent (error : ExtensionError)
  | noSignals
  deriving DecidableEq, Repr

def RunError.message : RunError → String
  | noRuntimeApi => "AWS_LAMBDA_RUNTIME_API is not set"
  | notRegistered _ => "failed to register extension"
  | notResolved _ => "failed to resolve collector configuration"
  | notStarted _ => "failed to start collector"
  | notStopped _ => "collector failed during shutdown"
  | notSubscribed _ => "failed to subscribe to Telemetry API"
  | noListener => "telemetry receiver has no listener address"
  | noEvent _ => "failed to receive next lifecycle event"
  | noSignals => "failed to install signal handlers"

/-! ## Causes

What lies behind an error, the nearest cause first. -/

def ConnectFault.message : ConnectFault → String
  | unreachable => "Network is unreachable (os error 101)"
  | refused => "Connection refused (os error 111)"
  | notSecured => "received corrupt message"

/-- A fault of a request and what lies behind it. -/
def HttpFault.causes (fault : HttpFault) : List String :=
  match fault with
  | badUrl _ => ["builder error"]
  | badHeader => ["builder error", "failed to parse header value"]
  | unconnected url fault =>
    ["error sending request" ++ about url, "client error (Connect)"]
      ++ (if fault = .notSecured then [] else ["tcp connect error"]) ++ [fault.message]
  | timedOut url => ["error sending request" ++ about url, "operation timed out"]
  | tooManyRedirections url => ["error following redirect" ++ about url, "too many redirects"]
  | bodyCut => ["error decoding response body"]
where
  about (url : Url) : String := " for url (" ++ url.text ++ ")"

/-- An error of the extension interface and what lies behind it. -/
def ExtensionError.causes (e : ExtensionError) : List String :=
  e.message :: match e with
    | unanswered _ fault => fault.causes
    | _ => []

/-- An error of a subscription and what lies behind it. -/
def SubscriptionError.causes (e : SubscriptionError) : List String :=
  e.message :: match e with
    | unanswered _ fault | bodyCut _ _ fault => fault.causes
    | _ => []

def BindFault.message : BindFault → String
  | inUse => "Address already in use (os error 98)"
  | denied => "Permission denied (os error 13)"
  | unavailable => "Cannot assign requested address (os error 99)"

/-- An error of the receiver and what lies behind it. -/
def ReceiverError.causes (e : ReceiverError) : List String :=
  e.message :: match e with
    | notBound _ fault => [fault.message]
    | _ => []

/-- An error of the coordinator and what lies behind it. -/
def CoordinatorError.causes (e : CoordinatorError ReceiverError) : List String :=
  e.message :: match e with
    | build error | run error => error.causes
    | _ => []

/-- An error of a run and what lies behind it. -/
def RunError.causes (e : RunError) : List String :=
  e.message :: match e with
    | notRegistered error | noEvent error => error.causes
    | notResolved error => [error.message]
    | notStarted error | notStopped error => error.causes
    | notSubscribed error => error.causes
    | noRuntimeApi | noListener | noSignals => []

end TelemetrySidecar

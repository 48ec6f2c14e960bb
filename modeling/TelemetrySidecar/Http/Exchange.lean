import TelemetrySidecar.Http.Url

/-
  Requests and what comes of them

  A host is a function: what comes of a request may depend on the requests
  before it. A task that talks to hosts carries the log of its exchanges and
  either goes on with a value or waits forever.
-/

namespace TelemetrySidecar

/-- Names and octets of header fields, in order. -/
abbrev Headers := List (String × List UInt8)

/-- The value of the first field of a name, whatever its case. -/
def Headers.find? (name : String) (headers : Headers) : Option (List UInt8) :=
  (List.find? (fun h => h.1.toLower == name.toLower) headers).map (·.2)

structure Request where
  method : String
  url : Url
  headers : Headers := []
  body : List UInt8 := []
  deriving DecidableEq, Repr

/-- What a request is routed by: its method and its path without the query. -/
def Request.route (r : Request) : String :=
  r.method ++ " " ++ String.ofList (r.url.target.toList.takeWhile (· != '?'))

/-- An answer; `complete` says whether its body can be read to the end. -/
structure Response where
  status : Nat := 200
  headers : Headers := []
  body : List UInt8 := []
  complete : Bool := true
  deriving DecidableEq, Repr

/-- Why no connection comes about. -/
inductive ConnectFault where
  | unreachable
  | refused
  | notSecured
  deriving DecidableEq, Repr

/-- What comes of a request. -/
inductive Outcome where
  | answered (response : Response)
  | unconnected (fault : ConnectFault)
  | silent
  deriving DecidableEq, Repr

/-- A request and what came of it. -/
structure Exchange where
  request : Request
  outcome : Outcome
  deriving DecidableEq, Repr

/-- The exchanges so far, the first one first. -/
abbrev Log := List Exchange

/-- Whether a request arrived at all. -/
def Exchange.arrived (e : Exchange) : Bool :=
  match e.outcome with
  | .unconnected _ => false
  | _ => true

/-- The requests that arrived. -/
def Log.requests (log : Log) : List Request := (log.filter Exchange.arrived).map (·.request)

/-- What comes of a request after the exchanges before it. -/
abbrev Host := Log → Request → Outcome

/-- A task that talks to hosts: it goes on with a value, or with none it waits
forever. -/
abbrev Talk (α : Type) := OptionT (StateM Log) α

/-- Sends a request. -/
def Host.ask (host : Host) (request : Request) : Talk Outcome :=
  .mk fun log =>
    let outcome := host log request
    (some outcome, log ++ [⟨request, outcome⟩])

/-- A task that never goes on. -/
def Talk.stuck {α : Type} : Talk α := .mk fun log => (none, log)

namespace Host

/-- No request arrives anywhere. -/
def unreachable : Host := fun _ _ => .unconnected .unreachable

/-- What a script says for each route: the outcomes of its first, second …
request; the last one holds for all further requests. -/
abbrev Script := List (String × List Outcome)

/-- The host at one authority that follows a script. A route the script does not
know has nothing to give, and nothing else listens. -/
def scripted (authority : String) (script : Script) : Host := fun log request =>
  if request.url.authority != authority then .unconnected .refused
  else if request.url.secure then .unconnected .notSecured
  else
    let outcomes := (script.lookup request.route).getD []
    let past := (Log.requests log).filter fun r =>
      r.url.authority == authority && r.route == request.route
    (outcomes[min past.length (outcomes.length - 1)]?).getD (.answered { status := 404 })

end Host

end TelemetrySidecar

import TelemetrySidecar.Http.Exchange

/-
  Sending requests

  A client sends a request and follows redirections to the final response. It
  waits for an answer forever unless it has a deadline.
-/

namespace TelemetrySidecar

/-- Why a request has no final response. -/
inductive HttpFault where
  | badUrl (text : String)
  | badHeader
  | unconnected (url : Url) (fault : ConnectFault)
  | timedOut (url : Url)
  | tooManyRedirections (url : Url)
  | bodyCut
  deriving DecidableEq, Repr

namespace Http

/-- Whether octets may stand as the value of a header field. -/
def isHeaderValue (octets : List UInt8) : Bool :=
  octets.all fun b => b == 9 || (32 ≤ b.toNat && b.toNat != 127)

/-- How often a client lets itself be redirected. -/
def maxRedirections : Nat := 10

/-- The statuses that redirect. -/
def redirections : List Nat := [301, 302, 303, 307, 308]

/-- The request that a response redirects to. -/
def redirection? (request : Request) (response : Response) : Option Request := do
  if !redirections.contains response.status then none
  let place ← (response.headers.find? "location").bind Text.decode?
  let url ← request.url.join (String.ofList place)
  if response.status = 307 || response.status = 308 then return { request with url }
  else if request.method = "GET" || request.method = "HEAD" then return { request with url }
  else
    let about := ["content-type", "content-length", "content-encoding", "transfer-encoding"]
    let headers := request.headers.filter fun h => !about.contains h.1.toLower
    return { method := "GET", url, headers, body := [] }

/-- Sends a request and follows at most the number of redirections given. -/
def follow (host : Host) (deadline : Bool) : Nat → Request → Talk (Except HttpFault Response)
  | left, request => do
    match ← host.ask request with
    | .unconnected fault => return .error (.unconnected request.url fault)
    | .silent => if deadline then return .error (.timedOut request.url) else Talk.stuck
    | .answered response =>
      match redirection? request response with
      | none => return .ok response
      | some next =>
        match left with
        | 0 => return .error (.tooManyRedirections request.url)
        | left + 1 => follow host deadline left next

/-- Sends a request to an address. What is no address and what cannot stand in a
header is not sent. -/
def send (host : Host) (deadline : Bool) (method address : String) (headers : Headers)
    (body : List UInt8) : Talk (Except HttpFault Response) :=
  match Url.read? address with
  | none => return .error (.badUrl address)
  | some url =>
    if headers.all fun h => isHeaderValue h.2 then
      follow host deadline maxRedirections { method, url, headers, body }
    else return .error .badHeader

end Http

/-- Whether responses of a status have no body. -/
def Response.isBare (r : Response) : Bool := r.status < 200 || r.status = 204 || r.status = 304

/-- The text of a body that can be read to its end, without a mark of its
encoding. -/
def Response.text (r : Response) : Except HttpFault String :=
  if r.isBare then .ok ""
  else if r.complete then
    let body := match r.body with
      | 0xEF :: 0xBB :: 0xBF :: rest => rest
      | body => body
    .ok (String.ofList (Text.decodeLossy body))
  else .error .bodyCut

end TelemetrySidecar

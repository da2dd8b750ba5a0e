import OrderReplay.Http.Message
import OrderReplay.Okapi.Service

/-! The service reached over HTTP: which request a call makes, and what a call makes of
the response. -/
namespace OrderReplay.Okapi

structure Client where
  /-- Never ends with a slash, as every path begins with one. -/
  baseUrl : Text
  tenant : Text
  /-- Seconds after which a request is given up; a client without them waits forever. -/
  timeout : Option Nat
  deriving DecidableEq, Repr

namespace Client

/-- A client for any base address, of which slashes at the end go. It never gives up. -/
def ofBase (baseUrl tenant : Text) : Client := ⟨Text.trimEnd '/' baseUrl, tenant, none⟩

def tokenHeader : Text := "x-okapi-token".toList

def urlLimit : Nat := 65534

def isAuthorityChar (c : Char) : Bool :=
  Http.Path.isAlpha c || (Text.digit? c).isSome ||
    c ∈ ['-', '.', '_', '~', '!', '$', '&', '\'', '(', ')', '*', '+', ',', ';', '=', ':', '@',
      '[', ']', '%']

def isSendable (url : Http.Url) : Bool :=
  (url.scheme == Http.Url.http || url.scheme == Http.Url.https) &&
    (Text.Utf8.encode url.shown).length ≤ urlLimit &&
    (url.authority.map fun a => (Http.Url.authorityShown a).all isAuthorityChar).getD false

/-- The request for a path below the base address. The address is read before the
headers are set, and whether anything can be sent there is asked last. -/
def request (client : Client) (method : Method) (path : Text) (token : Option Text)
    (body : Text) : Except TransportFailure Http.Request :=
  match Http.Url.ofText? (client.baseUrl ++ path) with
  | none => .error .unbuildable
  | some url =>
    if url.hasHost = false then .error (.unsupported url.shown)
    else
      let url := url.withoutUser
      if Http.isHeaderText client.tenant && token.all Http.isHeaderText then
        if isSendable url then .ok ⟨method, url, client.tenant, token, Http.contentType, body⟩
        else .error (.unsupported url.shown)
      else .error .unbuildable

def requestOf (client : Client) : Call → Except TransportFailure Http.Request
  | .login credentials => client.request .post loginPath none credentials.written
  | .update session line =>
    client.request .put (linePath line) (some session.token) line.written

/-- The response to a call, or why there is none, and the requests that the network has
received by then. Before the call it has received those that are given, the newest
first. A call that is never settled is taken for one that is given up; `settles` tells
which they are. -/
def exchange (client : Client) (network : Http.Network) (received : List Http.Request)
    (call : Call) : Except TransportFailure Http.Response × List Http.Request :=
  match client.requestOf call with
  | .error cause => (.error cause, received)
  | .ok request =>
    let unanswered (timedOut : Bool) : TransportFailure := .unanswered request.url.shown timedOut
    match network received request with
    | .unreachable => (.error (unanswered false), received)
    | .answered octets closed =>
      match Http.Wire.response octets closed with
      | .ok response => (.ok response, request :: received)
      | .error .malformed => (.error (unanswered false), request :: received)
      | .error .unfinished => (.error (unanswered !closed), request :: received)

def check (method : Method) (path : Text) (response : Http.Response) :
    Except Failure Http.Response :=
  if response.status.rejects then .error (.rejected method path response.status response.text)
  else .ok response

/-- Whether a call with this delivery comes to an end. A client without a timeout waits for
the rest of a head, and of a body if `check` reads it, as long as the connection is open. -/
def isSettled (client : Client) (delivery : Http.Delivery) : Bool :=
  client.timeout.isSome ||
    match delivery with
    | .unreachable => true
    | .answered octets closed =>
      match Http.Wire.response octets closed with
      | .ok response => !response.status.rejects || response.body != .pending
      | .error .malformed => true
      | .error .unfinished => closed

def settles (client : Client) (network : Http.Network) (received : List Http.Request)
    (call : Call) : Bool :=
  match client.requestOf call with
  | .error _ => true
  | .ok request => client.isSettled (network received request)

/-- Whether requests that a network has received, the newest first, have all been settled. -/
def allSettled (client : Client) (network : Http.Network) : List Http.Request → Bool
  | [] => true
  | request :: earlier =>
    client.isSettled (network earlier request) && allSettled client network earlier

/-- The token that a login response carries: the first header of that name, if it is
plain text and not empty. -/
def token? (response : Http.Response) : Option Text :=
  ((response.header? tokenHeader).bind Http.plainText?).filter (· ≠ [])

def sessionOf (response : Http.Response) : Except Failure Session :=
  match check .post loginPath response with
  | .error cause => .error cause
  | .ok response =>
    match token? response with
    | some token => .ok ⟨token⟩
    | none => .error .missingToken

def login (client : Client) (network : Http.Network) (received : List Http.Request)
    (credentials : Credentials) : Except Failure Session × List Http.Request :=
  match client.exchange network received (.login credentials) with
  | (.error cause, received) => (.error (.transport cause), received)
  | (.ok response, received) => (sessionOf response, received)

def update (client : Client) (network : Http.Network) (received : List Http.Request)
    (session : Session) (line : OrderLine) : Except Failure Unit × List Http.Request :=
  match client.exchange network received (.update session line) with
  | (.error cause, received) => (.error (.transport cause), received)
  | (.ok response, received) => ((check .put (linePath line) response).map fun _ => (), received)

/-- The service that the client makes of a network. It remembers the requests that the
network has received, the newest first. -/
def service (client : Client) (network : Http.Network) : Service (List Http.Request) where
  fresh := []
  login := client.login network
  update := client.update network

end Client
end OrderReplay.Okapi

import OrderReplay.Failure
import OrderReplay.Http.Url
import OrderReplay.Http.Wire

/-! Requests, and what becomes of them on their way to a server and back. Redirects are not
followed here: a response is the final one, and one with a redirecting status is a response
that does not say where to go on. -/
namespace OrderReplay.Http

structure Request where
  method : Method
  url : Url
  tenant : Text
  token : Option Text
  contentType : Text
  body : Text
  deriving DecidableEq, Repr

def contentType : Text := "application/json".toList

/-- Characters that may stand in the value of a header: all but the controls, of which
only the tab may. -/
def isHeaderText (text : Text) : Bool :=
  text.all fun c => c == '\t' || (0x20 ≤ c.toNat && c ≠ '\x7f')

/-- What becomes of a request that is sent. -/
inductive Delivery where
  /-- Nobody listens, so the request is never received. -/
  | unreachable
  /-- The server sends the octets of the final response before any timeout is over. Then it
  closes the connection, or keeps it open without sending any more. -/
  | answered (octets : Octets) (closed : Bool)
  deriving DecidableEq, Repr

namespace Delivery

def dropped : Delivery := .answered [] true

def hung : Delivery := .answered [] false

def ofReply (reply : Reply) : Delivery := .answered reply.written true

end Delivery

/-- What becomes of a request, given the requests received before it, the newest
first. -/
abbrev Network := List Request → Request → Delivery

def nobody : Network := fun _ _ => .unreachable

/-- A server that answers the requests it receives one after the other, by a list and
then always alike. It receives only what is addressed to it. -/
structure Server where
  url : Url
  replies : List Delivery
  rest : Nat → Delivery

def Server.network (s : Server) : Network := fun earlier request =>
  if request.url.origin = s.url.origin then
    (s.replies[earlier.length]?).getD (s.rest earlier.length)
  else .unreachable

end OrderReplay.Http

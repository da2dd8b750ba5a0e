import OrderReplay.Failure
import OrderReplay.OrderLine
import OrderReplay.Okapi.Session

/-! The service as the replay sees it: logins and updates, each answered once. What it
answers may depend on every call it has received before, of which it remembers what it
likes. -/
namespace OrderReplay.Okapi

inductive Call where
  | login (credentials : Credentials)
  | update (session : Session) (line : OrderLine)

/-- The answers of a service, each with what the service remembers before and after
it. -/
structure Service (Memory : Type) where
  /-- What it remembers before the first call. -/
  fresh : Memory
  login : Memory → Credentials → Except Failure Session × Memory
  update : Memory → Session → OrderLine → Except Failure Unit × Memory

def loginPath : Text := "/bl-users/login".toList
def linesPath : Text := "/orders-storage/po-lines".toList

/-- The path of an order line is its identifier below that of all lines, as it is. -/
def linePath (line : OrderLine) : Text := linesPath ++ '/' :: line.id

end OrderReplay.Okapi

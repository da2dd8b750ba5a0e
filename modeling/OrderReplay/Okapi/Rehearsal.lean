import OrderReplay.Okapi.Service

/-! A service without a network, which answers by rule: every login as told, every
update with success unless its identifier is to be rejected. It remembers nothing. -/
namespace OrderReplay.Okapi

structure Rehearsal where
  token : Text
  /-- The status that a failing login is answered with. -/
  loginStatus : Option Http.Status
  /-- Identifiers whose updates are rejected, each with its status. -/
  rejected : List (Text × Http.Status)

namespace Rehearsal

def login (r : Rehearsal) : Except Failure Session :=
  match r.loginStatus with
  | some status => .error (.rejected .post loginPath status "Invalid credentials".toList)
  | none => .ok ⟨r.token⟩

def rejection (line : OrderLine) : Text :=
  "\x7b\"errors\":[\x7b\"message\":\"rejected ".toList ++ line.id ++ "\"\x7d]\x7d".toList

def update (r : Rehearsal) (line : OrderLine) : Except Failure Unit :=
  match r.rejected.lookup line.id with
  | some status => .error (.rejected .put (linePath line) status (rejection line))
  | none => .ok ()

def service (r : Rehearsal) : Service Unit where
  fresh := ()
  login _ _ := (r.login, ())
  update _ _ line := (r.update line, ())

end Rehearsal
end OrderReplay.Okapi

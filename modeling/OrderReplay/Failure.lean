import OrderReplay.Http.Status

/-! Why a replay, or one call of it, fails. -/
namespace OrderReplay

inductive Method where
  | post
  | put
  deriving DecidableEq, Repr

def Method.name : Method → Text
  | .post => "POST".toList
  | .put => "PUT".toList

inductive TransportFailure where
  /-- The request could not be made: its address or one of its headers is not valid. -/
  | unbuildable
  /-- The address is valid, but nothing can be sent there. -/
  | unsupported (url : Text)
  /-- No response came. -/
  | unanswered (url : Text) (timedOut : Bool)
  deriving DecidableEq, Repr

def TransportFailure.message : TransportFailure → Text
  | .unbuildable => "builder error".toList
  | .unsupported url => "builder error for url (".toList ++ url ++ [')']
  | .unanswered url _ => "error sending request for url (".toList ++ url ++ [')']

inductive Failure where
  /-- Reading the log failed. -/
  | io (cause : Text)
  | transport (cause : TransportFailure)
  /-- The service rejected a request. -/
  | rejected (method : Method) (path : Text) (status : Http.Status) (body : Text)
  /-- The login response carried no usable token. -/
  | missingToken
  | settings (problem : Text)
  deriving DecidableEq, Repr

namespace Failure

def message : Failure → Text
  | .io cause => "IO error: ".toList ++ cause
  | .transport cause => "HTTP request failed: ".toList ++ cause.message
  | .rejected method path status body =>
    method.name ++ ' ' :: path ++ " returned ".toList ++ status.shown ++ ": ".toList ++ body
  | .missingToken => "Login response did not include an x-okapi-token header".toList
  | .settings problem => "Configuration error: ".toList ++ problem

def status? : Failure → Option Http.Status
  | .rejected _ _ status _ => some status
  | _ => none

/-- What stands behind a failure that reports another one, the nearest first. -/
def causes : Failure → List Text
  | .io cause => [cause]
  | .transport cause => [cause.message]
  | _ => []

end Failure
end OrderReplay

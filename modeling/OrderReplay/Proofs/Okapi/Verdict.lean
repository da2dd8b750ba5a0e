import OrderReplay.Proofs.Except
import OrderReplay.Proofs.Http.Head
import OrderReplay.Proofs.Okapi.Secrets

/-! What a response decides about the call that it answers. A call is rejected for the class of
the status alone: a status from 600 on is of no class and is taken for success, although it is
above those of all errors. Only the text of a rejection comes from the body. -/
namespace OrderReplay

/-- A failure without the text that a body gave it. -/
def Failure.curt : Failure → Failure
  | .rejected method path status _ => .rejected method path status []
  | failure => failure

namespace Http

def Delivery.response? : Delivery → Option Response
  | .unreachable => none
  | .answered octets closed => (Wire.response octets closed).toOption

theorem Status.rejects_iff (status : Status) :
    status.rejects = true ↔ 400 ≤ status.code ∧ status.code ≤ 599 := by
  simp [Status.rejects]

end Http

namespace Okapi.Client
open Http

variable {client : Client} {network network' : Network} {received received' : List Request}
  {session : Session} {line : OrderLine} {credentials : Credentials} {response response' : Response}

def responseTo? (client : Client) (network : Network) (received : List Request) (call : Call) :
    Option Response :=
  (client.requestOf call).toOption.bind fun request => (network received request).response?

theorem exchange_response (client : Client) (network : Network) (received : List Request)
    (call : Call) :
    (client.exchange network received call).1.toOption =
      client.responseTo? network received call := by
  unfold exchange responseTo?
  cases client.requestOf call with
  | error cause => rfl
  | ok request =>
    simp only [Except.toOption, Option.bind_some]
    cases network received request with
    | unreachable => rfl
    | answered octets closed =>
      simp only [Delivery.response?]
      rcases Wire.response octets closed with (_ | _) | response <;> rfl

theorem exchange_of_response {call : Call}
    (given : client.responseTo? network received call = some response) :
    (client.exchange network received call).1 = .ok response :=
  ok_of_toOption ((exchange_response ..).trans given)

theorem responseTo?_of_request {call : Call} {request : Request}
    (made : client.requestOf call = .ok request) :
    client.responseTo? network received call = (network received request).response? := by
  rw [responseTo?, made]
  rfl

theorem exists_of_response {call : Call}
    (given : client.responseTo? network received call = some response) :
    ∃ request octets closed, client.requestOf call = .ok request ∧
      network received request = .answered octets closed ∧
      Wire.response octets closed = .ok response := by
  cases made : client.requestOf call with
  | error cause =>
    rw [responseTo?, made] at given
    cases given
  | ok request =>
    rw [responseTo?_of_request made] at given
    cases sent : network received request with
    | unreachable =>
      rw [sent] at given
      cases given
    | answered octets closed =>
      rw [sent] at given
      exact ⟨request, octets, closed, rfl, sent, ok_of_toOption given⟩

/-- The response that a call gets, and with which it comes to an end. -/
structure Answered (client : Client) (network : Network) (received : List Request) (call : Call)
    (response : Response) : Prop where
  given : client.responseTo? network received call = some response
  settles : client.settles network received call = true

/-- Only a client that never gives up is left waiting by a response, and only for the body of a
rejection. -/
theorem answered_iff {call : Call}
    (given : client.responseTo? network received call = some response) :
    client.Answered network received call response ↔ client.timeout ≠ none ∨
      ¬ (400 ≤ response.status.code ∧ response.status.code ≤ 599) ∨ response.body ≠ .pending := by
  have settles : client.settles network received call =
      (client.timeout.isSome || (!response.status.rejects || response.body != .pending)) := by
    obtain ⟨request, octets, closed, made, sent, read⟩ := exists_of_response given
    simp only [Client.settles, isSettled, made, sent, read]
  rw [← Status.rejects_iff, Option.ne_none_iff_isSome]
  refine ⟨fun answered => by simpa [settles] using answered.settles, fun free => ⟨given, ?_⟩⟩
  simpa [settles] using free

theorem check_eq (method : Method) (path : Text) (response : Response) :
    check method path response =
      if 400 ≤ response.status.code ∧ response.status.code ≤ 599 then
        .error (.rejected method path response.status response.text) else .ok response := by
  simp only [check, Status.rejects_iff]

theorem update_of_response
    (given : client.responseTo? network received (.update session line) = some response) :
    (client.update network received session line).1 =
      if 400 ≤ response.status.code ∧ response.status.code ≤ 599 then
        .error (.rejected .put (linePath line) response.status response.text) else .ok () := by
  rw [update_answer, exchange_of_response given]
  dsimp only
  rw [check_eq]
  split <;> rfl

theorem login_of_response
    (given : client.responseTo? network received (.login credentials) = some response) :
    (client.login network received credentials).1 =
      if 400 ≤ response.status.code ∧ response.status.code ≤ 599 then
        .error (.rejected .post loginPath response.status response.text)
      else match token? response with
        | some token => .ok ⟨token⟩
        | none => .error .missingToken := by
  rw [login_answer, exchange_of_response given]
  dsimp only
  rw [sessionOf, check_eq]
  by_cases rejected : 400 ≤ response.status.code ∧ response.status.code ≤ 599
  · rw [if_pos rejected, if_pos rejected]
  · rw [if_neg rejected]
    exact (if_neg rejected).symm

theorem update_without_response
    (none : client.responseTo? network received (.update session line) = none) :
    ∃ cause, (client.update network received session line).1 = .error (.transport cause) := by
  obtain ⟨cause, answer⟩ := error_of_toOption ((exchange_response ..).trans none)
  rw [update_answer, answer]
  exact ⟨cause, rfl⟩

/-- A failed update has the status of the response, if there was one. -/
theorem status_of_update {failure : Failure}
    (failed : (client.update network received session line).1 = .error failure) :
    failure.status? =
      (client.responseTo? network received (.update session line)).map Response.status := by
  cases given : client.responseTo? network received (.update session line) with
  | none =>
    obtain ⟨cause, answer⟩ := update_without_response given
    cases answer.symm.trans failed
    rfl
  | some response =>
    have answer := update_of_response given
    rw [failed] at answer
    split at answer
    next =>
      cases answer
      rfl
    next => cases answer

theorem update_curt (status : response.status = response'.status)
    (given : client.responseTo? network received (.update session line) = some response)
    (given' : client.responseTo? network' received' (.update session line) = some response') :
    (client.update network received session line).1.mapError Failure.curt =
      (client.update network' received' session line).1.mapError Failure.curt := by
  rw [update_of_response given, update_of_response given', status]
  split <;> rfl

theorem login_curt (status : response.status = response'.status)
    (fields : response.fields = response'.fields)
    (given : client.responseTo? network received (.login credentials) = some response)
    (given' : client.responseTo? network' received' (.login credentials) = some response') :
    (client.login network received credentials).1.mapError Failure.curt =
      (client.login network' received' credentials).1.mapError Failure.curt := by
  have token : token? response = token? response' := by
    simp only [token?, Response.header?, fields]
  rw [login_of_response given, login_of_response given', status, token]
  split <;> rfl

end Okapi.Client
end OrderReplay

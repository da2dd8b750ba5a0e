import Mathlib.Data.List.Basic
import OrderReplay.Proofs.Okapi.Verdict
import OrderReplay.Proofs.Replay.Result

/-! The count of successes against the network. Each update that is counted is a request that the
network has received and answered with a status outside the classes of errors, and no other
request is counted. -/
namespace OrderReplay

namespace Http

/-- Requests that a network has received, the newest first, each with the response it got. -/
def answers (network : Network) : List Request → List (Request × Option Response)
  | [] => []
  | request :: earlier => (request, (network earlier request).response?) :: answers network earlier

def isAcceptedPut : Request × Option Response → Bool
  | (request, response) => request.method == .put &&
    response.any fun response => response.status.code < 400 || 599 < response.status.code

def acceptedPuts (network : Network) (received : List Request) : Nat :=
  (answers network received).countP isAcceptedPut

end Http

namespace Okapi.Client
open Http

variable {client : Client} {network : Network} {received : List Request}

/-- A call adds its request, if there is one to receive, and so one answer at most. -/
theorem acceptedPuts_exchange (call : Call) :
    acceptedPuts network (client.exchange network received call).2 =
      acceptedPuts network received +
        match client.requestOf call with
        | .error _ => 0
        | .ok request =>
          if isAcceptedPut (request, (network received request).response?) then 1 else 0 := by
  rw [exchange_received]
  cases client.requestOf call with
  | error cause => rfl
  | ok request =>
    dsimp only
    by_cases lost : network received request = .unreachable
    · rw [if_pos lost, lost]
      simp [isAcceptedPut, Delivery.response?]
    · rw [if_neg lost]
      exact List.countP_cons ..

theorem acceptedPuts_login (client : Client) (network : Network) (received : List Request)
    (credentials : Credentials) :
    acceptedPuts network (client.login network received credentials).2 =
      acceptedPuts network received := by
  rw [login_received, acceptedPuts_exchange]
  cases made : client.requestOf (.login credentials) with
  | error cause => rfl
  | ok request =>
    obtain ⟨method, -, -⟩ := request_kept made
    simp [isAcceptedPut, method]

theorem acceptedPuts_update (client : Client) (network : Network) (received : List Request)
    (session : Session) (line : OrderLine) :
    acceptedPuts network (client.update network received session line).2 =
      acceptedPuts network received +
        if (client.update network received session line).1.isOk then 1 else 0 := by
  rw [update_received, acceptedPuts_exchange]
  cases made : client.requestOf (.update session line) with
  | error cause =>
    have none : client.responseTo? network received (.update session line) = none := by
      rw [responseTo?, made]
      rfl
    obtain ⟨cause, answer⟩ := update_without_response none
    rw [answer]
    rfl
  | ok request =>
    obtain ⟨method, -, -⟩ := request_kept made
    dsimp only
    rw [← responseTo?_of_request made]
    cases given : client.responseTo? network received (.update session line) with
    | none =>
      obtain ⟨cause, answer⟩ := update_without_response given
      rw [answer]
      simp [isAcceptedPut, Except.isOk, Except.toBool]
    | some response =>
      rw [update_of_response given]
      by_cases rejected : 400 ≤ response.status.code ∧ response.status.code ≤ 599
      · rw [if_pos rejected]
        have outside : ¬ (response.status.code < 400 ∨ 599 < response.status.code) := by omega
        simp [isAcceptedPut, Except.isOk, Except.toBool, outside]
      · rw [if_neg rejected]
        have outside : response.status.code < 400 ∨ 599 < response.status.code := by omega
        simp [isAcceptedPut, Except.isOk, Except.toBool, method, outside]

end Okapi.Client

namespace Replay
open Http

variable {client : Okapi.Client} {network : Network} {setup : Setup (List Request)}
  {s t : State (List Request)}

/-- The successes are the puts that the network has accepted. -/
def Vouched (network : Network) (s : State (List Request)) : Prop :=
  s.tally.succeeded = acceptedPuts network s.memory

theorem vouched_step (served : setup.service = client.service network)
    (valid : Vouched network s) (h : Step setup s t) : Vouched network t := by
  unfold Vouched at valid ⊢
  cases h with
  | ended | interrupted | skipped | recovered | dropped | queued | stopped | asked | taken
  | drained => exact valid
  | admitted here answer | refused here answer =>
    rw [served] at answer
    have kept := client.acceptedPuts_login network s.memory setup.credentials
    rw [show client.login network s.memory setup.credentials = _ from answer] at kept
    exact valid.trans kept.symm
  | @saved session line memory here answer =>
    rw [served] at answer
    have counted := client.acceptedPuts_update network s.memory session line
    rw [show client.update network s.memory session line = _ from answer] at counted
    exact (congrArg (· + 1) valid).trans counted.symm
  | @failed session line cause memory here answer =>
    rw [served] at answer
    have counted := client.acceptedPuts_update network s.memory session line
    rw [show client.update network s.memory session line = _ from answer] at counted
    exact valid.trans counted.symm

theorem vouched_execute (served : setup.service = client.service network) (stream : Log.Stream)
    (schedule : List Side) :
    Vouched network (execute setup schedule (State.start setup stream)) := by
  refine execute_induction (Vouched network) ?_ (fun s t => vouched_step served) schedule
  unfold Vouched State.start
  rw [served]
  rfl

theorem tally_of_result? {Memory : Type} {s : State Memory} {summary : Summary}
    (finished : s.result? = some (.ok summary)) : summary.tally = s.tally := by
  cases worker : s.worker <;> cases scan : s.scan <;>
    simp [State.result?, State.tally?, worker, scan] at finished
  rw [← finished]

/-- A response is judged by its status: one of the classes of errors is a failure that carries
the path, the status and the text of the body, any other is a success, or leaves a login to its
token. Only without a timeout, and for the body of a rejection that never comes to its end, is
there no answer at all. What stands behind the head of the response, and whether all of it arrives,
changes neither its status nor its fields, so that only the text of a failure can depend on it.
Throughout a replay, as many updates have succeeded as there were puts that the network has
accepted. -/
theorem judged_by_status (client : Okapi.Client) (network : Network) :
    (∀ received session line response,
      client.Answered network received (.update session line) response →
        (client.update network received session line).1 =
          if 400 ≤ response.status.code ∧ response.status.code ≤ 599 then
            .error (.rejected .put (Okapi.linePath line) response.status response.text)
          else .ok ()) ∧
    (∀ received credentials response,
      client.Answered network received (.login credentials) response →
        (client.login network received credentials).1 =
          if 400 ≤ response.status.code ∧ response.status.code ≤ 599 then
            .error (.rejected .post Okapi.loginPath response.status response.text)
          else match Okapi.Client.token? response with
            | some token => .ok ⟨token⟩
            | none => .error .missingToken) ∧
    (∀ received call response, client.responseTo? network received call = some response →
      (client.Answered network received call response ↔ client.timeout ≠ none ∨
        ¬ (400 ≤ response.status.code ∧ response.status.code ≤ 599) ∨
          response.body ≠ .pending)) ∧
    (∀ received session line failure,
      client.settles network received (.update session line) = true →
      (client.update network received session line).1 = .error failure →
        failure.status? =
          (client.responseTo? network received (.update session line)).map Response.status) ∧
    (∀ octets closed response, Wire.response octets closed = .ok response →
      ∃ head rest, octets = head ++ rest ∧ ∀ other closed', ∃ body,
        Wire.response (head ++ other) closed' = .ok { response with body }) ∧
    (∀ network' received received' response response', response.status = response'.status →
      response.fields = response'.fields →
        (∀ session line,
          client.Answered network received (.update session line) response →
          client.Answered network' received' (.update session line) response' →
            (client.update network received session line).1.mapError Failure.curt =
              (client.update network' received' session line).1.mapError Failure.curt) ∧
        ∀ credentials,
          client.Answered network received (.login credentials) response →
          client.Answered network' received' (.login credentials) response' →
            (client.login network received credentials).1.mapError Failure.curt =
              (client.login network' received' credentials).1.mapError Failure.curt) ∧
    ∀ extent credentials stream,
      let setup : Setup (List Request) := ⟨extent, client.service network, credentials⟩
      (∀ schedule, let s := execute setup schedule (State.start setup stream)
        client.allSettled network s.memory = true →
          s.tally.succeeded = acceptedPuts network s.memory) ∧
      ∀ summary, (run setup stream).result = .ok summary →
        client.allSettled network (run setup stream).memory = true →
          summary.tally.succeeded = acceptedPuts network (run setup stream).memory := by
  refine ⟨fun received session line response answered =>
      Okapi.Client.update_of_response answered.given,
    fun received credentials response answered =>
      Okapi.Client.login_of_response answered.given,
    fun received call response => Okapi.Client.answered_iff,
    fun received session line failure _ => Okapi.Client.status_of_update, ?_, ?_, ?_⟩
  · intro octets closed response read
    obtain ⟨head, rest, framing, shape, behind⟩ := Wire.response_of_head read
    exact ⟨head, rest, shape, fun other closed' => ⟨_, behind other closed'⟩⟩
  · intro network' received received' response response' status fields
    exact ⟨fun session line one other => Okapi.Client.update_curt status one.given other.given,
      fun credentials one other =>
        Okapi.Client.login_curt status fields one.given other.given⟩
  · intro extent credentials stream setup
    refine ⟨fun schedule _ => vouched_execute rfl stream schedule, fun summary finished _ => ?_⟩
    obtain ⟨schedule, -, result, -, memory⟩ := run_eq_execute setup stream
    rw [finished] at result
    rw [tally_of_result? result, memory]
    exact vouched_execute rfl stream schedule

/-- A network that answers a login with a token, the first update with success, and every later
one with a rejection of which the body breaks off. -/
def brokenOff : Network := fun received _ =>
  match received.length with
  | 0 => .ofReply ⟨201, [(Text.Utf8.encode Okapi.Client.tokenHeader, [115])], []⟩
  | 1 => .ofReply ⟨204, [], []⟩
  | _ => .answered (Text.Utf8.encode
      "HTTP/1.1 422 Unprocessable Entity\r\ncontent-length: 9\r\n\r\nbro".toList) false

/-- Two updates, of which the second is rejected with a body that never arrives whole. -/
theorem judged_by_status_broken_off :
    let client := Okapi.Client.loopback
    let failure (id : Char) : Text :=
      FailureLine.marker ++ " \x7b\"id\":\"".toList ++ id :: "\"\x7d\n".toList
    let stream : Log.Stream := [.octets (Text.Utf8.encode (failure 'a' ++ failure 'b'))]
    let setup : Setup (List Request) :=
      ⟨Payload.outerBraces, client.service brokenOff, ⟨['u'], ['p']⟩⟩
    let line : OrderLine := ⟨[(idKey, .string ['b'])], ['b'], rfl⟩
    let earlier := List.replicate 2 (Okapi.Client.loopbackPut [] line)
    let status : Status := ⟨422, by decide, by decide⟩
    let opened : Response :=
      ⟨⟨201, by decide, by decide⟩,
        [(Text.Utf8.encode "content-length".toList, Text.Utf8.encode ['0']),
          (Text.Utf8.encode Okapi.Client.tokenHeader, [115])], .whole []⟩
    let rejected : Response :=
      ⟨status, [(Text.Utf8.encode "content-length".toList, Text.Utf8.encode ['9'])], .pending⟩
    client.Answered brokenOff [] (.login ⟨['u'], ['p']⟩) opened ∧
    (client.login brokenOff [] ⟨['u'], ['p']⟩).1 = .ok ⟨['s']⟩ ∧
    client.Answered brokenOff earlier (.update ⟨['s']⟩ line) rejected ∧
    (client.update brokenOff earlier ⟨['s']⟩ line).1 =
      .error (.rejected .put (Okapi.linePath line) status []) ∧
    (run setup stream).result = .ok ⟨2, 2, 0, ⟨1, 1⟩⟩ ∧
    client.allSettled brokenOff (run setup stream).memory = true ∧
    acceptedPuts brokenOff (run setup stream).memory = 1 := by
  intro client failure stream setup line earlier status opened rejected
  obtain ⟨updates, logins, answers, -, -, -, runs⟩ := judged_by_status client brokenOff
  have patient : client.timeout ≠ none := by decide
  have login : client.Answered brokenOff [] (.login ⟨['u'], ['p']⟩) opened :=
    (answers _ _ _ (by decide +kernel)).2 (.inl patient)
  have update : client.Answered brokenOff earlier (.update ⟨['s']⟩ line) rejected :=
    (answers _ _ _ (by decide +kernel)).2 (.inl patient)
  have finished : (run setup stream).result = .ok ⟨2, 2, 0, ⟨1, 1⟩⟩ := by decide +kernel
  have settled : client.allSettled brokenOff (run setup stream).memory = true := by
    decide +kernel
  refine ⟨login, (logins _ _ _ login).trans ?_, update, updates _ _ _ _ update, finished, settled,
    ?_⟩
  · decide +kernel
  · exact ((runs Payload.outerBraces ⟨['u'], ['p']⟩ stream).2 _ finished settled).symm

/-- A status above those of all errors is taken for success. -/
theorem update_accepted_beyond_classes :
    let client := Okapi.Client.loopback
    let network : Network := fun _ _ => .ofReply ⟨600, [], []⟩
    let line : OrderLine := ⟨[(idKey, .string ['a'])], ['a'], rfl⟩
    let response : Response :=
      ⟨⟨600, by decide, by decide⟩,
        [(Text.Utf8.encode "content-length".toList, Text.Utf8.encode ['0'])], .whole []⟩
    client.Answered network [] (.update ⟨['s']⟩ line) response ∧
      ¬ ((client.update network [] ⟨['s']⟩ line).1 = .ok () ↔ response.status.code < 400) := by
  intro client network line response
  have given : client.responseTo? network [] (.update ⟨['s']⟩ line) = some response := by
    decide +kernel
  refine ⟨(Okapi.Client.answered_iff given).2 (.inl (by decide)), fun same => ?_⟩
  have accepted : (client.update network [] ⟨['s']⟩ line).1 = .ok () :=
    Okapi.Client.update_of_response given
  exact absurd (same.1 accepted) (by decide)

end Replay
end OrderReplay

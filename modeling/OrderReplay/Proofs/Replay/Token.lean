import OrderReplay.Proofs.Okapi.Token
import OrderReplay.Proofs.Replay.Progress

/-! The token of a replay. What the login is answered settles it before the first put: either a
token has been granted, and every put bears it, or none has, and there is no put. -/
namespace OrderReplay

namespace Okapi.Client
open Http

theorem received_of_response {client : Client} {network : Network} {received : List Request}
    {call : Call} {response : Response}
    (given : client.responseTo? network received call = some response) :
    ∃ request, client.requestOf call = .ok request ∧
      (client.exchange network received call).2 = request :: received := by
  obtain ⟨request, octets, closed, made, sent, -⟩ := exists_of_response given
  refine ⟨request, made, ?_⟩
  simp [exchange_received, made, sent]

end Okapi.Client

namespace Replay
open Http
open Okapi (Client)

/-! ### What the worker comes to -/

section
variable {Memory : Type} {setup : Setup Memory} {lines : List OrderLine} {s first : State Memory}
  {session : Okapi.Session} {cause : Failure}

theorem Unbegun.planned_of_ok (unbegun : Unbegun setup lines first)
    (accepted : (setup.service.login setup.service.fresh setup.credentials).1 = .ok session) :
    first.planned setup = .login setup.credentials :: lines.map (.update session) := by
  rw [unbegun.planned, accepted]

theorem Unbegun.planned_of_error (unbegun : Unbegun setup lines first)
    (refused : (setup.service.login setup.service.fresh setup.credentials).1 = .error cause) :
    first.planned setup = [.login setup.credentials] := by
  rw [unbegun.planned, refused]

/-- What has been called is a first part of what was planned. -/
theorem calls_prefix (first : State Memory) (schedule : List Side) :
    (execute setup schedule first).trace.calls.reverse <+: first.planned setup := by
  rw [← (planned_execute schedule).1]
  exact List.prefix_append _ _

theorem tally?_of_isOver (setup : Setup Memory) (ended : s.isOver = true) :
    s.tally? = match s.refusal? setup with
      | some cause => some (.error cause)
      | none => some (.ok s.tally) := by
  have worked : s.worker.isOver = true := (Bool.and_eq_true_iff.1 ended).2
  cases left : s.worker <;> simp_all [Worker.isOver, State.tally?, State.refusal?]

theorem drain_calls (setup : Setup Memory) (lines : List OrderLine) :
    (drain setup lines).2.calls.reverse = (State.filled setup lines).planned setup := by
  obtain ⟨schedule, final⟩ := exists_execute_eq_complete setup (State.filled setup lines)
  rw [← (planned_execute schedule).1, final,
    (planned_of_isOver (complete_isOver setup (State.filled setup lines))).1]
  rfl

/-- The refusal that a filled queue will end with is settled before its first step. -/
theorem drain_result (setup : Setup Memory) (lines : List OrderLine) :
    some (drain setup lines).1 = match (State.filled setup lines).refusal? setup with
      | some cause => some (.error cause)
      | none => some (.ok (complete setup (State.filled setup lines)).tally) := by
  obtain ⟨schedule, final⟩ := exists_execute_eq_complete setup (State.filled setup lines)
  have kept : (complete setup (State.filled setup lines)).refusal? setup =
      (State.filled setup lines).refusal? setup := by
    rw [← final, refusal?_execute]
  rw [← kept, ← tally?_of_isOver setup (complete_isOver setup _)]
  exact Option.some_get _

/-- Behind an accepted login the order lines that are given are updated in their order. -/
theorem drain_of_ok (lines : List OrderLine)
    (accepted : (setup.service.login setup.service.fresh setup.credentials).1 = .ok session) :
    (∃ tally, (drain setup lines).1 = .ok tally) ∧
      (drain setup lines).2.calls.reverse =
        .login setup.credentials :: lines.map (.update session) := by
  have result := drain_result setup lines
  simp only [State.refusal?, State.filled, accepted] at result
  exact ⟨⟨_, Option.some.inj result⟩,
    (drain_calls setup lines).trans ((unbegun_filled setup lines).planned_of_ok accepted)⟩

theorem drain_of_error (lines : List OrderLine)
    (refused : (setup.service.login setup.service.fresh setup.credentials).1 = .error cause) :
    (drain setup lines).1 = .error cause ∧
      (drain setup lines).2.calls.reverse = [.login setup.credentials] := by
  have result := drain_result setup lines
  simp only [State.refusal?, State.filled, refused] at result
  exact ⟨Option.some.inj result,
    (drain_calls setup lines).trans ((unbegun_filled setup lines).planned_of_error refused)⟩

end

/-! ### What the network receives -/

/-- An update has been called, or the network has received a put. -/
def HasPut (s : State (List Request)) : Prop :=
  (∃ session line, .update session line ∈ s.trace.calls) ∨
    ∃ request ∈ s.memory, request.method = .put

/-- So far order lines have been updated in their order with one token, which every put bears. -/
structure Bears (client : Client) (credentials : Okapi.Credentials) (lines : List OrderLine)
    (token : Text) (s : State (List Request)) : Prop where
  calls : s.trace.calls.reverse <+: .login credentials :: lines.map (.update ⟨token⟩)
  puts : ∀ request ∈ s.memory, request.method = .put →
    request.token = some token ∧ request.tenant = client.tenant

/-- So far there has been no call but the login, and no request but that of the login. -/
structure Putless (client : Client) (credentials : Okapi.Credentials)
    (s : State (List Request)) : Prop where
  calls : s.trace.calls.reverse <+: [.login credentials]
  requests : ∃ request, client.requestOf (.login credentials) = .ok request ∧
    s.memory <:+ [request]

variable {extent : Payload.Extent} {client : Client} {network : Network}
  {credentials : Okapi.Credentials} {lines : List OrderLine} {response : Response} {token : Text}
  {s first : State (List Request)}

theorem Putless.not_hasPut (putless : Putless client credentials s) : ¬ HasPut s := by
  obtain ⟨calls, sent, made, requests⟩ := putless
  rintro (⟨session, line, called⟩ | ⟨request, received, put⟩)
  · have login := calls.subset (List.mem_reverse.2 called)
    simp at login
  · obtain rfl := List.mem_singleton.1 (requests.subset received)
    have post : request.method = .post := (Client.request_kept made).1
    rw [post] at put
    cases put

/-- What the network has received is a first part of what it will have received. -/
theorem memory_suffix {setup : Setup (List Request)}
    (served : setup.service = client.service network) (unbegun : Unbegun setup lines first)
    (schedule : List Side) :
    (execute setup schedule first).memory <:+
      (first.planned setup).foldl (client.service network).after [] := by
  have whole : (execute setup schedule first).remembered setup =
      (first.planned setup).foldl (client.service network).after [] := by
    rw [(planned_execute schedule).2, unbegun.remembered, served]
    rfl
  rw [← whole, State.remembered, served]
  exact Client.suffix_received _ _

theorem bears_execute (grants : Client.Grants response token)
    (answered : client.responseTo? network [] (.login credentials) = some response)
    (unbegun : Unbegun ⟨extent, client.service network, credentials⟩ lines first)
    (schedule : List Side) :
    Bears client credentials lines token
      (execute ⟨extent, client.service network, credentials⟩ schedule first) := by
  have planned := unbegun.planned_of_ok (Client.login_of_grants grants answered)
  refine ⟨planned ▸ calls_prefix first schedule, fun request received put => ?_⟩
  have later := (memory_suffix rfl unbegun schedule).subset received
  rw [planned] at later
  rcases Client.mem_received later with before | ⟨call, member, made⟩
  · cases before
  · rcases List.mem_cons.1 member with rfl | member
    · have post : request.method = .post := (Client.request_kept made).1
      rw [post] at put
      cases put
    · obtain ⟨line, -, rfl⟩ := List.mem_map.1 member
      obtain ⟨url, -, -, -, -, -, rfl⟩ := (Client.request_ok_iff client _ _ _ _ _).1 made
      exact ⟨rfl, rfl⟩

theorem putless_execute (ungranted : ∀ token, ¬ Client.Grants response token)
    (answered : client.responseTo? network [] (.login credentials) = some response)
    (unbegun : Unbegun ⟨extent, client.service network, credentials⟩ lines first)
    (schedule : List Side) :
    Putless client credentials
      (execute ⟨extent, client.service network, credentials⟩ schedule first) := by
  have planned := unbegun.planned_of_error (Client.login_of_ungranted ungranted answered)
  obtain ⟨request, made, received⟩ := Client.received_of_response answered
  refine ⟨planned ▸ calls_prefix first schedule, request, made, ?_⟩
  have later := memory_suffix rfl unbegun schedule
  rw [planned, List.foldl_cons, List.foldl_nil, Client.after_received, received] at later
  exact later

/-- Whatever a login is answered, puts are sent only if the response grants a token: its status is
of no class of errors, and its first token field is not empty and plain. Every put then bears
exactly this token, and the tenant of the client, and none is kept from being made by the token.
Otherwise there is no call but the login, no request but its own, and its refusal is the result.
This holds at every moment of every run that begins with these order lines, whether they are all
queued before or are still to be read, and of draining them. -/
theorem puts_bear_granted_token (extent : Payload.Extent) (client : Client) (network : Network)
    (credentials : Okapi.Credentials) (lines : List OrderLine) {response : Response}
    (answered : client.responseTo? network [] (.login credentials) = some response) :
    let setup : Setup (List Request) := ⟨extent, client.service network, credentials⟩
    (∀ first, Unbegun setup lines first → ∀ schedule, let s := execute setup schedule first
      (HasPut s → ∃ token, Client.Grants response token) ∧
      (∀ token, Client.Grants response token → Bears client credentials lines token s) ∧
      ((∀ token, ¬ Client.Grants response token) → Putless client credentials s)) ∧
    (∀ token, Client.Grants response token →
      (∀ line, client.requestOf (.update ⟨token⟩ line) =
        (client.request .put (Okapi.linePath line) none line.written).map
          fun request => { request with token := some token }) ∧
      (∃ tally, (drain setup lines).1 = .ok tally) ∧
      (drain setup lines).2.calls.reverse =
        .login credentials :: lines.map (.update ⟨token⟩)) ∧
    ((∀ token, ¬ Client.Grants response token) →
      (drain setup lines).1 = .error (Client.refusal response) ∧
      (drain setup lines).2.calls.reverse = [.login credentials]) := by
  intro setup
  refine ⟨fun first unbegun schedule => ⟨fun sent => ?_,
      fun token grants => bears_execute grants answered unbegun schedule,
      fun ungranted => putless_execute ungranted answered unbegun schedule⟩,
    fun token grants => ⟨client.requestOf_update_of_grants grants,
      drain_of_ok lines (Client.login_of_grants grants answered)⟩,
    fun ungranted => drain_of_error lines (Client.login_of_ungranted ungranted answered)⟩
  refine Classical.byContradiction fun ungranted => ?_
  exact (putless_execute (not_exists.1 ungranted) answered unbegun schedule).not_hasPut sent

def handingOut (tokens : List Octets) : Network := fun received _ =>
  if received.isEmpty then
    .ofReply ⟨201, tokens.map (Text.Utf8.encode "X-Okapi-Token".toList, ·), []⟩
  else .ofReply ⟨204, [], []⟩

/-- Two token fields, of which one is plain and the other is not. Where the plain one is the first,
two order lines are updated with it, and where it is the second there is no token. -/
theorem puts_bear_granted_token_of_two_fields :
    let line : OrderLine := ⟨[(idKey, .string ['a'])], ['a'], rfl⟩
    let credentials : Okapi.Credentials := ⟨['u'], ['p']⟩
    let token := "a b\tc".toList
    let setup (tokens : List Octets) : Setup (List Request) :=
      ⟨Payload.outerBraces, Client.loopback.service (handingOut tokens), credentials⟩
    let granting := setup [Text.Utf8.encode token, [200]]
    let refusing := setup [[200], Text.Utf8.encode token]
    let s := execute granting (List.replicate 7 .worker) (State.filled granting [line, line])
    s.memory.map Request.token = [some token, some token, none] ∧
    Bears Client.loopback credentials [line, line] token s ∧
    (drain granting [line, line]).2.calls.reverse =
      [.login credentials, .update ⟨token⟩ line, .update ⟨token⟩ line] ∧
    (drain refusing [line, line]).1 = .error .missingToken ∧
    (drain refusing [line, line]).2.calls.reverse = [.login credentials] := by
  intro line credentials token setup granting refusing s
  let response (tokens : List Octets) : Response :=
    ⟨⟨201, by decide, by decide⟩, (Text.Utf8.encode "content-length".toList, [48]) ::
      tokens.map (Text.Utf8.encode "X-Okapi-Token".toList, ·), .whole []⟩
  have answered : Client.loopback.responseTo? (handingOut [Text.Utf8.encode token, [200]]) []
      (.login credentials) = some (response [Text.Utf8.encode token, [200]]) := by decide +kernel
  have answered' : Client.loopback.responseTo? (handingOut [[200], Text.Utf8.encode token]) []
      (.login credentials) = some (response [[200], Text.Utf8.encode token]) := by decide +kernel
  have grants : Client.Grants (response [Text.Utf8.encode token, [200]]) token :=
    ⟨by decide, .behind (by decide +kernel) (.here (by decide +kernel)), by decide,
      by decide +kernel⟩
  have ungranted : ∀ token', ¬ Client.Grants (response [[200], Text.Utf8.encode token]) token' := by
    intro token' grants
    have none : Client.token? (response [[200], Text.Utf8.encode token]) = none := by
      decide +kernel
    cases none.symm.trans grants.carried
  obtain ⟨runs, granted, -⟩ := puts_bear_granted_token Payload.outerBraces Client.loopback _
    credentials [line, line] answered
  obtain ⟨-, bears, -⟩ := runs _ (unbegun_filled granting [line, line]) (List.replicate 7 .worker)
  obtain ⟨-, -, refused⟩ := puts_bear_granted_token Payload.outerBraces Client.loopback _
    credentials [line, line] answered'
  exact ⟨by decide +kernel, bears token grants, (granted token grants).2.2, refused ungranted⟩

end Replay
end OrderReplay

import OrderReplay.Proofs.Okapi.Secrets
import OrderReplay.Proofs.Replay.Ending
import OrderReplay.Proofs.Replay.Lockstep

/-! Two replays that differ in the password, and in the token that the login hands out. All
that can be seen of them is the same: what they come to, what they say, which calls they
make with which order lines, and how they are shown. -/
namespace OrderReplay

def Settings.withPassword (settings : Settings) (password : Text) : Settings :=
  { settings with credentials := { settings.credentials with password } }

namespace Replay

open Okapi (Client)
open FailureLine (orderLines)

def deliveries (extent : Payload.Extent) (settings : Settings) (network : Http.Network)
    (stream : Log.Stream) : List Http.Delivery :=
  let setup := Setup.over extent settings network
  settings.client.heard network [] ((State.start setup stream).planned setup)

/-- Reports that differ at most in the secrets of calls and requests. -/
structure Report.Alike (one other : Report (List Http.Request)) : Prop where
  result : one.result = other.result
  events : one.trace.events = other.trace.events
  calls : one.trace.veiled = other.trace.veiled
  requests : one.memory.map Http.Request.veiled = other.memory.map Http.Request.veiled

theorem Report.Alike.behind {one other : Report (List Http.Request)} (h : one.Alike other)
    (opening : Trace) : Report.Alike { one with trace := one.trace ++ opening }
      { other with trace := other.trace ++ opening } := by
  have trace : Trace.veiled (one.trace ++ opening) = Trace.veiled (other.trace ++ opening) := by
    rw [Trace.veiled, Trace.veiled, List.map_append, List.map_append]
    exact congrArg (· ++ _) h.calls
  exact ⟨h.result, events_of_veiled trace, trace, h.requests⟩

variable {extent : Payload.Extent} {settings : Settings} {password : Text} {stream : Log.Stream}
  {n m : Http.Network}

/-- Networks that deliver the same, but for the token, make for services that give the same
answers and that receive the same requests, but for their secrets. -/
theorem answers_of_deliveries
    (same : (deliveries extent settings n stream).map Client.gist =
      (deliveries extent (settings.withPassword password) m stream).map Client.gist) :
    let a := Setup.over extent settings n
    let b := Setup.over extent (settings.withPassword password) m
    a.answers stream = b.answers stream ∧
      (((State.start a stream).planned a).foldl a.service.after []).map Http.Request.veiled =
        (((State.start b stream).planned b).foldl b.service.after []).map
          Http.Request.veiled := by
  intro a b
  have client : (settings.withPassword password).client = settings.client := rfl
  rw [deliveries, deliveries, planned_start, planned_start, client] at same
  obtain ⟨matched, behind⟩ := Client.matched_of_heard
    (Client.requestOf_login settings.client _ _) same
  have received := matched.behind rfl
  have accepted := Client.login_matched matched
  rw [← Client.login_received, ← Client.login_received] at received behind
  rw [planned_start, planned_start]
  simp only [Setup.answers, a, b, Setup.over, Client.service, client, List.foldl_cons,
    Okapi.Service.after] at received accepted behind ⊢
  rcases first : settings.client.login n [] settings.credentials with ⟨answer, after⟩
  rcases second : settings.client.login m [] (settings.withPassword password).credentials with
    ⟨answer', after'⟩
  rw [first, second] at received accepted
  simp only [first, second] at behind ⊢
  cases answer with
  | error cause =>
    cases answer' with
    | error cause' =>
      cases accepted
      exact ⟨rfl, received⟩
    | ok => cases accepted
  | ok session =>
    cases answer' with
    | error => cases accepted
    | ok session' =>
      have usable := Client.isHeaderText_of_login (congrArg Prod.fst first)
      have usable' := Client.isHeaderText_of_login (congrArg Prod.fst second)
      obtain ⟨replies, requests⟩ := Client.replies_of_heard usable usable' _ behind
      exact ⟨congrArg Except.ok replies, requests received⟩

theorem memory_run {Memory : Type} (setup : Setup Memory) (stream : Log.Stream) :
    (run setup stream).memory =
      ((State.start setup stream).planned setup).foldl setup.service.after
        setup.service.fresh := by
  obtain ⟨schedule, ended, -, -, memory⟩ := run_eq_execute setup stream
  obtain ⟨-, -, remembered⟩ := calls_of_isOver setup stream schedule ended
  exact memory.trans remembered

/-- Where a request has its secret: a login has the password in its body and no token, and an
update has the token of the session in a header, and its order line as its body. -/
def Placed (extent : Payload.Extent) (settings : Settings) (network : Http.Network)
    (stream : Log.Stream) (request : Http.Request) : Prop :=
  (request.method = .post ∧ request.token = none ∧
    request.body = settings.credentials.written) ∨
  (request.method = .put ∧ ∃ session, loginOf settings network = .ok session ∧
    request.token = some session.token ∧
    ∃ line ∈ orderLines extent stream.texts, request.body = line.written)

theorem placed_of_mem {request : Http.Request}
    (h : request ∈ (run (Setup.over extent settings n) stream).memory) :
    Placed extent settings n stream request := by
  rw [memory_run, planned_start] at h
  rcases Client.mem_received h with before | ⟨call, member, made⟩
  · cases before
  · rcases List.mem_cons.1 member with rfl | member
    · exact .inl (Client.request_kept made)
    · split at member
      next session answer =>
        obtain ⟨line, given, rfl⟩ := List.mem_map.1 member
        obtain ⟨method, token, body⟩ := Client.request_kept made
        exact .inr ⟨method, session, answer, token, line, given, body⟩
      next => cases member

/-- Two replays by settings that differ in the password, over networks that deliver the same
but for the token that a login hands out. Under every schedule they come to the same result,
say the same, and make the same calls with the same order lines, and their requests differ
in the bodies of the logins and in the tokens of the updates alone, which is where the
secrets are placed. Neither is in the text of the settings, of the credentials or of a
session. -/
theorem secrets_unseen (extent : Payload.Extent) (settings : Settings) (password : Text)
    (stream : Log.Stream) (n m : Http.Network)
    (same : (deliveries extent settings n stream).map Client.gist =
      (deliveries extent (settings.withPassword password) m stream).map Client.gist) :
    let changed := settings.withPassword password
    let a := Setup.over extent settings n
    let b := Setup.over extent changed m
    (∀ schedule, let s := execute a schedule (State.start a stream)
      let t := execute b schedule (State.start b stream)
      s.isOver = t.isOver ∧ s.result? = t.result? ∧ s.trace.events = t.trace.events ∧
      s.trace.veiled = t.trace.veiled ∧
      (s.isOver = true →
        s.memory.map Http.Request.veiled = t.memory.map Http.Request.veiled)) ∧
    Report.Alike (run a stream) (run b stream) ∧
    (∀ request ∈ (run a stream).memory, Placed extent settings n stream request) ∧
    (extent = Payload.outerBraces → Report.Alike (runSettings settings (.opened stream) n)
      (runSettings changed (.opened stream) m)) ∧
    settings.shown = changed.shown ∧
    settings.credentials.shown = changed.credentials.shown ∧
    ∀ session other : Okapi.Session, session.shown = other.shown := by
  intro changed a b
  obtain ⟨answers, requests⟩ := answers_of_deliveries same
  obtain ⟨alike, result, trace⟩ := alike_of_answers (a := a) (b := b) rfl rfl answers
  have report : Report.Alike (run a stream) (run b stream) := by
    refine ⟨result, events_of_veiled trace, trace, ?_⟩
    rw [memory_run, memory_run]
    exact requests
  refine ⟨fun schedule => ?_, report, fun _ => placed_of_mem, ?_, rfl, rfl, fun _ _ => rfl⟩
  · intro s t
    have near := alike schedule
    refine ⟨near.isOver, near.result?, near.events, near.trace, fun ended => ?_⟩
    obtain ⟨-, -, memory⟩ := calls_of_isOver a stream schedule ended
    obtain ⟨-, -, memory'⟩ :=
      calls_of_isOver b stream schedule (near.isOver.symm.trans ended)
    rw [memory, memory']
    exact requests
  · rintro rfl
    exact report.behind [.event (.started settings.logPath settings.client.baseUrl settings.tenant),
      .event (.logOpened settings.logPath)]

/-- Two passwords and two tokens; the one update is rejected. -/
theorem secrets_unseen_rejected :
    let settings : Settings := ⟨['l'], Client.loopback.baseUrl, ['t'], ⟨['u'], ['p']⟩, none⟩
    let header : Http.Octets := Text.Utf8.encode Client.tokenHeader
    let network (token : Http.Octets) : Http.Network := fun received _ =>
      if received.isEmpty then .ofReply ⟨201, [(header, token)], []⟩
      else .ofReply ⟨422, [], Text.Utf8.encode ['n', 'o']⟩
    let stream : Log.Stream :=
      [.octets (Text.Utf8.encode (FailureLine.marker ++ " \x7b\"id\":\"a\"\x7d\n".toList))]
    let n := network (Text.Utf8.encode ['s'])
    let m := network (Text.Utf8.encode ['o', 't', 'h', 'e', 'r'])
    (deliveries Payload.outerBraces settings n stream).map Client.gist =
      (deliveries Payload.outerBraces (settings.withPassword ['q']) m stream).map Client.gist ∧
    (deliveries Payload.outerBraces settings n stream).length = 2 ∧
    Report.Alike (runSettings settings (.opened stream) n)
      (runSettings (settings.withPassword ['q']) (.opened stream) m) := by
  intro settings header network stream n m
  have same : (deliveries Payload.outerBraces settings n stream).map Client.gist =
      (deliveries Payload.outerBraces (settings.withPassword ['q']) m stream).map
        Client.gist := by
    decide +kernel
  obtain ⟨-, -, -, reports, -⟩ := secrets_unseen Payload.outerBraces settings ['q'] stream n m same
  exact ⟨same, by decide +kernel, reports rfl⟩

end Replay
end OrderReplay

import OrderReplay.Proofs.CommandLine.Notice
import OrderReplay.Proofs.Except
import OrderReplay.Proofs.Okapi.Update
import OrderReplay.Proofs.Replay.Ending

/-! How the program ends. Five things can go wrong, and they are looked at in this order:
the arguments, the settings made of them, the opening of the log, the login, and the
reading of the log. The first of them that does go wrong is reported, and only where none
does the program succeed. What becomes of the updates, and of the lines that give none,
changes nothing in this. -/
namespace OrderReplay.Program

open CommandLine (parse asksNotice Environment)
open Replay (Setup State Side execute loginOf)

/-- The settings that arguments and environment give. -/
def Configured (args : List Text) (env : Environment) (settings : Settings) : Prop :=
  ∃ options, parse args env = .ok (.run options) ∧ Settings.ofOptions options = .ok settings

def stage (settings : Settings) : Text :=
  "Rollover replay of ".toList ++ settings.logPath ++ " aborted".toList

section

variable (args : List Text) (env : Environment) (files : Text → File) (network : Http.Network)

/-- All that a run needs: settings, a log that opens, a session, and that the log is read to
its end. -/
def Sound : Prop :=
  ∃ settings stream session, Configured args env settings ∧
    files settings.logPath = .opened stream ∧ loginOf settings network = .ok session ∧
    stream.fault? = none

/-- The first thing that goes wrong, and what is reported of it. -/
inductive FirstFailure : Ending → Prop where
  | usage {error} (unread : parse args env = .error error) : FirstFailure (.usage error)
  | settings {options problem} (read : parse args env = .ok (.run options))
      (invalid : Settings.ofOptions options = .error problem) :
      FirstFailure (.aborted ⟨"Invalid configuration".toList, problem.failure⟩)
  | log {settings cause} (configured : Configured args env settings)
      (shut : files settings.logPath = .refused cause) :
      FirstFailure (.aborted ⟨stage settings, .io cause⟩)
  | login {settings stream cause} (configured : Configured args env settings)
      (opened : files settings.logPath = .opened stream)
      (refused : loginOf settings network = .error cause) :
      FirstFailure (.aborted ⟨stage settings, cause⟩)
  | reading {settings stream session cause} (configured : Configured args env settings)
      (opened : files settings.logPath = .opened stream)
      (admitted : loginOf settings network = .ok session)
      (broken : stream.fault? = some cause) :
      FirstFailure (.aborted ⟨stage settings, .io cause⟩)

end

variable {args : List Text} {env : Environment} {files : Text → File} {network : Http.Network}
  {filter : Filter} {settings : Settings} {stream : Log.Stream}

def endingOf (settings : Settings) : Except Failure Replay.Summary → Ending
  | .ok summary => .finished summary
  | .error cause => .aborted ⟨stage settings, cause⟩

theorem run_of_configured (readable : Filter.ofVariable? (env.lookup filterVariable) = some filter)
    (configured : Configured args env settings) :
    let report := Replay.runSettings settings (files settings.logPath) network
    run args env files network =
      ⟨endingOf settings report.result, filter, report.trace, report.memory.reverse,
        settings.client.allSettled network report.memory⟩ := by
  obtain ⟨options, read, valid⟩ := configured
  simp only [run, readable, read, replay, valid]
  cases (Replay.runSettings settings (files settings.logPath) network).result <;> rfl

/-- A run that begins nothing, or one by settings. -/
theorem unbegun_or_configured (args : List Text) (env : Environment) (files : Text → File)
    (network : Http.Network) :
    (∃ ending filter, run args env files network = ⟨ending, filter, [], [], true⟩) ∨
      ∃ filter settings, Filter.ofVariable? (env.lookup filterVariable) = some filter ∧
        Configured args env settings := by
  unfold run
  cases readable : Filter.ofVariable? (env.lookup filterVariable) with
  | none => exact .inl ⟨_, _, rfl⟩
  | some filter =>
    cases read : parse args env with
    | error error => exact .inl ⟨_, _, rfl⟩
    | ok request =>
      cases request with
      | notice notice => exact .inl ⟨_, _, rfl⟩
      | run options =>
        dsimp only
        unfold replay
        cases valid : Settings.ofOptions options with
        | error problem => exact .inl ⟨_, _, rfl⟩
        | ok settings => exact .inr ⟨filter, settings, rfl, options, read, valid⟩

theorem ending_of_failure {ending : Ending}
    (readable : Filter.ofVariable? (env.lookup filterVariable) = some filter)
    (h : FirstFailure args env files network ending) :
    (run args env files network).ending = ending := by
  cases h with
  | usage unread => simp only [run, readable, unread]
  | settings read invalid => simp only [run, readable, read, replay, invalid]
  | log configured shut =>
    rw [run_of_configured readable configured, shut]
    rfl
  | @login settings stream cause configured opened refused =>
    have fails := Replay.failureOf?_runSettings settings stream network
    rw [refused] at fails
    rw [run_of_configured readable configured, opened, Replay.failureOf?_eq_some.1 fails]
    rfl
  | @reading settings stream session cause configured opened admitted broken =>
    have fails := Replay.failureOf?_runSettings settings stream network
    rw [admitted, broken] at fails
    rw [run_of_configured readable configured, opened, Replay.failureOf?_eq_some.1 fails]
    rfl

theorem ending_of_sound
    (readable : Filter.ofVariable? (env.lookup filterVariable) = some filter)
    (h : Sound args env files network) :
    ∃ summary, (run args env files network).ending = .finished summary := by
  obtain ⟨settings, stream, session, configured, opened, admitted, whole⟩ := h
  have fails := Replay.failureOf?_runSettings settings stream network
  rw [admitted, whole] at fails
  obtain ⟨summary, is⟩ := Replay.failureOf?_eq_none.1 fails
  refine ⟨summary, ?_⟩
  rw [run_of_configured readable configured, opened, is]
  rfl

/-- Unless a notice is asked for, all is sound or something goes wrong first. -/
theorem sound_or_failure (env : Environment) (files : Text → File) (network : Http.Network)
    (plain : ∀ word ∈ args, asksNotice word = false) :
    Sound args env files network ∨ ∃ ending, FirstFailure args env files network ending := by
  cases read : parse args env with
  | error error => exact .inr ⟨_, .usage read⟩
  | ok request =>
    cases request with
    | notice notice => exact absurd read (CommandLine.parse_notice plain)
    | run options =>
      cases valid : Settings.ofOptions options with
      | error problem => exact .inr ⟨_, .settings read valid⟩
      | ok settings =>
        have configured : Configured args env settings := ⟨options, read, valid⟩
        cases opened : files settings.logPath with
        | refused cause => exact .inr ⟨_, .log configured opened⟩
        | opened stream =>
          cases answer : loginOf settings network with
          | error cause => exact .inr ⟨_, .login configured opened answer⟩
          | ok session =>
            cases fault : stream.fault? with
            | some cause => exact .inr ⟨_, .reading configured opened answer fault⟩
            | none =>
              exact .inl ⟨settings, stream, session, configured, opened, answer, fault⟩

theorem exitCode_of_failure {ending : Ending} (h : FirstFailure args env files network ending) :
    ending.exitCode ≠ 0 := by
  cases h <;> simp [Ending.exitCode]

theorem run_of_unreadable (unreadable : Filter.ofVariable? (env.lookup filterVariable) = none) :
    run args env files network = ⟨.unfiltered, ⟨[]⟩, [], [], true⟩ := by
  simp only [run, unreadable]

theorem allSettled_of_forall {client : Okapi.Client}
    (settles : ∀ received request, client.isSettled (network received request) = true)
    (received : List Http.Request) : client.allSettled network received = true := by
  induction received with
  | nil => rfl
  | cons request earlier ih => simp [Okapi.Client.allSettled, settles, ih]

theorem isSettled_of_timeout {client : Okapi.Client} (patient : client.timeout ≠ none)
    (delivery : Http.Delivery) : client.isSettled delivery = true := by
  simp [Okapi.Client.isSettled, Option.ne_none_iff_isSome.1 patient]

/-- Nothing is waited for forever if there is a timeout, or if the network settles all. -/
theorem settled_of_forall
    (settles : ∀ settings, Configured args env settings → settings.timeout ≠ none ∨
      ∀ received request, settings.client.isSettled (network received request) = true) :
    (run args env files network).settled = true := by
  rcases unbegun_or_configured args env files network with
    ⟨ending, filter, unbegun⟩ | ⟨filter, settings, readable, configured⟩
  · rw [unbegun]
  · rw [run_of_configured readable configured]
    refine allSettled_of_forall (fun received request => ?_) _
    rcases settles settings configured with patient | settled
    · exact isSettled_of_timeout patient _
    · exact settled received request

/-- Without settings, or without a log that opens, nothing is said or asked of any server. -/
theorem nothing_sent
    (shut : ∀ settings stream, Configured args env settings →
      files settings.logPath ≠ .opened stream) :
    let program := run args env files network
    program.requests = [] ∧ program.trace = [] ∧ program.settled = true := by
  intro program
  rcases unbegun_or_configured args env files network with
    ⟨ending, filter, unbegun⟩ | ⟨filter, settings, readable, configured⟩
  · have ends : program = ⟨ending, filter, [], [], true⟩ := unbegun
    rw [ends]
    exact ⟨rfl, rfl, rfl⟩
  · have ends : program = _ := run_of_configured readable configured
    cases opened : files settings.logPath with
    | refused cause =>
      rw [ends, opened]
      exact ⟨rfl, rfl, rfl⟩
    | opened stream => exact absurd opened (shut settings stream configured)

/-- Whichever side moves when, a replay succeeds where all is sound, and else reports what
went wrong first. -/
theorem sound_or_failure_of_result? {schedule : List Side}
    {result : Except Failure Replay.Summary} (configured : Configured args env settings)
    (opened : files settings.logPath = .opened stream)
    (found : (execute (Setup.over Payload.outerBraces settings network) schedule
      (State.start (Setup.over Payload.outerBraces settings network) stream)).result? =
        some result) :
    (Sound args env files network ∧ ∃ summary, result = .ok summary) ∨
      FirstFailure args env files network (endingOf settings result) := by
  have fails := Replay.failureOf?_of_result? found
  rw [Replay.failure?_over] at fails
  cases answer : loginOf settings network with
  | error cause =>
    rw [answer] at fails
    rw [Replay.failureOf?_eq_some.1 fails]
    exact .inr (.login configured opened answer)
  | ok session =>
    rw [answer] at fails
    cases fault : stream.fault? with
    | some cause =>
      rw [fault] at fails
      rw [Replay.failureOf?_eq_some.1 fails]
      exact .inr (.reading configured opened answer fault)
    | none =>
      rw [fault] at fails
      exact .inl ⟨⟨settings, stream, session, configured, opened, answer, fault⟩,
        Replay.failureOf?_eq_none.1 fails⟩

theorem exitCode_eq_zero_iff
    (readable : Filter.ofVariable? (env.lookup filterVariable) = some filter)
    (plain : ∀ word ∈ args, asksNotice word = false) :
    (run args env files network).ending.exitCode = 0 ↔ Sound args env files network := by
  constructor
  · intro succeeded
    rcases sound_or_failure env files network plain with sound | ⟨ending, failed⟩
    · exact sound
    · have ends := ending_of_failure readable failed
      rw [ends] at succeeded
      exact absurd succeeded (exitCode_of_failure failed)
  · intro sound
    obtain ⟨summary, ends⟩ := ending_of_sound readable sound
    rw [ends]
    rfl

theorem failure_iff_ending {ending : Ending}
    (readable : Filter.ofVariable? (env.lookup filterVariable) = some filter)
    (plain : ∀ word ∈ args, asksNotice word = false) :
    FirstFailure args env files network ending ↔
      (run args env files network).ending = ending ∧ ending.exitCode ≠ 0 := by
  constructor
  · intro failed
    exact ⟨ending_of_failure readable failed, exitCode_of_failure failed⟩
  · rintro ⟨rfl, fails⟩
    rcases sound_or_failure env files network plain with sound | ⟨ending, failed⟩
    · exact absurd ((exitCode_eq_zero_iff readable plain).2 sound) fails
    · rwa [ending_of_failure readable failed]

theorem ending?_eq_some {r : Run} {ending : Ending} :
    r.ending? = some ending ↔ r.settled = true ∧ r.ending = ending := by
  unfold Run.ending?
  split <;> simp [*]

theorem exitCode?_eq_some {r : Run} {code : Nat} :
    r.exitCode? = some code ↔ r.settled = true ∧ r.ending.exitCode = code := by
  simp [Run.exitCode?, Run.ending?, apply_ite]

def localEnvironment (filter : Text) : Environment :=
  [("ORDER_LOGS".toList, ['l']), ("OKAPI_HOST".toList, Okapi.Client.loopback.baseUrl),
    ("OKAPI_TENANT".toList, ['t']), ("OKAPI_USERNAME".toList, ['u']),
    ("OKAPI_PASSWORD".toList, ['p']), (filterVariable, filter)]

def rejecting : Http.Network := fun received _ =>
  if received.isEmpty then
    .ofReply ⟨201, [(Text.Utf8.encode Okapi.Client.tokenHeader, Text.Utf8.encode ['s'])], []⟩
  else .ofReply ⟨422, [], []⟩

def twoFailures : List UInt8 :=
  Text.Utf8.encode (FailureLine.marker ++ " \x7b\"id\":\"a\"\x7d\n".toList ++ FailureLine.marker)

theorem login_timeout (client : Okapi.Client) (timeout : Option Nat) :
    ({ client with timeout } : Okapi.Client).login = client.login := rfl

theorem sound_local {args : List Text} {env : Environment} {timeout : Nat}
    (read : parse args env =
      .ok (.run ⟨['l'], Okapi.Client.loopback.baseUrl, ['t'], ['u'], ['p'], timeout⟩)) :
    Sound args env (fun _ => .regular twoFailures) rejecting := by
  let settings : Settings := ⟨['l'], Okapi.Client.loopback.baseUrl, ['t'], ⟨['u'], ['p']⟩,
    if timeout = 0 then none else some timeout⟩
  have client : settings.client = { Okapi.Client.loopback with timeout := settings.timeout } := rfl
  have answer : (Okapi.Client.loopback.login rejecting [] ⟨['u'], ['p']⟩).1 = .ok ⟨['s']⟩ :=
    ok_of_toOption (by decide +kernel)
  have admitted : loginOf settings rejecting = .ok ⟨['s']⟩ := by
    rw [loginOf, client, login_timeout]
    exact answer
  exact ⟨settings, _, _, ⟨_, read, rfl⟩, rfl, admitted, rfl⟩

end OrderReplay.Program

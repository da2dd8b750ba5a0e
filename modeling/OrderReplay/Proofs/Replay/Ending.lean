import OrderReplay.Program
import OrderReplay.Proofs.Replay.Interrupted

/-! What a replay ends with, by its log and its login alone. A refused login is reported, and
behind an accepted one the read error of the log; no update has a say. -/
namespace OrderReplay.Replay

variable {Memory : Type} {setup : Setup Memory} {stream : Log.Stream}

def failureOf? : Except Failure Summary → Option Failure
  | .ok _ => none
  | .error cause => some cause

theorem failureOf?_eq_some {result : Except Failure Summary} {cause : Failure} :
    failureOf? result = some cause ↔ result = .error cause := by
  cases result <;> simp [failureOf?]

theorem failureOf?_eq_none {result : Except Failure Summary} :
    failureOf? result = none ↔ ∃ summary, result = .ok summary := by
  cases result <;> simp [failureOf?]

/-- Every schedule that comes to a result comes to the failure that was settled before its
first step, or succeeds if there was none. -/
theorem failureOf?_of_result? {schedule : List Side} {result : Except Failure Summary}
    (found : (execute setup schedule (State.start setup stream)).result? = some result) :
    failureOf? result = (State.start setup stream).failure? setup := by
  rw [← failure?_execute setup stream schedule]
  rcases result?_of_isOver setup (isOver_of_result? found) with
    ⟨cause, failed, is⟩ | ⟨lines, sound, -, -, is⟩
  · rw [failed, Option.some.inj (found.symm.trans is)]
    rfl
  · rw [sound, Option.some.inj (found.symm.trans is)]
    rfl

theorem failureOf?_run (setup : Setup Memory) (stream : Log.Stream) :
    failureOf? (run setup stream).result = (State.start setup stream).failure? setup := by
  obtain ⟨schedule, -, found, -⟩ := run_eq_execute setup stream
  exact failureOf?_of_result? found

/-- Every schedule can be continued to a result, at which the service remembers what it does
behind every other one. -/
theorem exists_result? (setup : Setup Memory) (stream : Log.Stream) (schedule : List Side) :
    ∃ more result,
      let final := execute setup more (execute setup schedule (State.start setup stream))
      final.result? = some result ∧ final.memory = (run setup stream).memory := by
  obtain ⟨more, completed⟩ := exists_execute_eq_complete setup
    (execute setup schedule (State.start setup stream))
  obtain ⟨other, finished, -, -, memory⟩ := run_eq_execute setup stream
  have ended := complete_isOver setup (execute setup schedule (State.start setup stream))
  rw [← completed] at ended
  obtain ⟨result, found⟩ := Option.isSome_iff_exists.1 (result?_isSome ended)
  refine ⟨more, result, found, ?_⟩
  rw [memory, ← (planned_of_isOver finished).2, ← (planned_of_isOver ended).2,
    (planned_execute other).2, (planned_execute more).2, (planned_execute schedule).2]

/-- A replay by settings over a network. -/
def Setup.over (extent : Payload.Extent) (settings : Settings) (network : Http.Network) :
    Setup (List Http.Request) :=
  ⟨extent, settings.client.service network, settings.credentials⟩

/-- What the network answers to the login of a run by settings. -/
def loginOf (settings : Settings) (network : Http.Network) : Except Failure Okapi.Session :=
  (settings.client.login network [] settings.credentials).1

theorem failure?_over (extent : Payload.Extent) (settings : Settings) (network : Http.Network)
    (stream : Log.Stream) :
    (State.start (Setup.over extent settings network) stream).failure?
        (Setup.over extent settings network) =
      match loginOf settings network with
      | .ok _ => stream.fault?.map .io
      | .error refusal => some refusal :=
  failure?_start_eq _ _

theorem failureOf?_runSettings (settings : Settings) (stream : Log.Stream)
    (network : Http.Network) :
    failureOf? (runSettings settings (.opened stream) network).result =
      match loginOf settings network with
      | .ok _ => stream.fault?.map .io
      | .error refusal => some refusal :=
  (failureOf?_run (Setup.over Payload.outerBraces settings network) stream).trans
    (failure?_over ..)

end OrderReplay.Replay

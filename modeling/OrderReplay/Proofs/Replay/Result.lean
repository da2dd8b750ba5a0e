import OrderReplay.Okapi.Rehearsal
import OrderReplay.Proofs.Replay.Calls

/-! What a replay comes to. The failure that it will end with, if it will end with one, is
settled before the first step by the log and by the service's answer to the login; no
schedule can trade one failure for another. -/
namespace OrderReplay.Replay

open FailureLine (orderLines)

variable {Memory : Type} {setup : Setup Memory} {stream : Log.Stream} {s t : State Memory}

/-- The read error that the scan has met or will meet, if it is let read on. -/
def Scan.fault? : Scan → Option Text
  | .reading reader | .sending reader _ _ => reader.rest.fault?
  | .done _ => none
  | .broken cause => some cause

namespace State

/-- The error that the login is answered with, or will be. -/
def refusal? (setup : Setup Memory) (s : State Memory) : Option Failure :=
  match s.worker with
  | .idle | .loggingIn =>
    match (setup.service.login s.memory setup.credentials).1 with
    | .ok _ => none
    | .error cause => some cause
  | .refused cause => some cause
  | _ => none

/-- The failure that the run ends with. A refused login wins over a broken log. -/
def failure? (setup : Setup Memory) (s : State Memory) : Option Failure :=
  (s.refusal? setup).or (s.scan.fault?.map .io)

/-- The worker leaves in peace only when the scan has nothing more to send. -/
def Attended (s : State Memory) : Prop := s.worker = .done → s.scan.isOver = true

end State

theorem attended_step (valid : s.Attended) (h : Step setup s t) : t.Attended := by
  unfold State.Attended at valid ⊢
  cases h with
  | ended | interrupted | stopped => intro; rfl
  | skipped here | recovered here | dropped here | queued here =>
    intro left
    have := valid left
    simp [here, Scan.isOver] at this
  | drained _ _ silent => intro; exact silent
  | asked | admitted | refused | taken | saved | failed => intro left; cases left

/-- A worker that left in peace had nobody sending to it. -/
theorem refused_of_deserted {reader : Log.Reader} {number : Nat} {line : OrderLine}
    (attended : s.Attended) (here : s.scan = .sending reader number line)
    (deserted : s.worker.isOver = true) : ∃ cause, s.worker = .refused cause := by
  cases worker : s.worker with
  | refused cause => exact ⟨cause, rfl⟩
  | done =>
    have silent := attended worker
    rw [here] at silent
    cases silent
  | idle | loggingIn | ready | saving => simp [worker, Worker.isOver] at deserted

/-- A step changes no failure that the run will end with. The scan loses sight of a read
error only when it stops because the login was refused. -/
theorem failure?_step (valid : s.Attended) (h : Step setup s t) :
    t.failure? setup = s.failure? setup := by
  cases h with
  | ended here last whole => simp [State.failure?, State.refusal?, Scan.fault?, here, whole]
  | interrupted here last fault => simp [State.failure?, State.refusal?, Scan.fault?, here, fault]
  | skipped here yields | recovered here yields | dropped here yields =>
    simp [State.failure?, State.refusal?, Scan.fault?, here, yields.fault]
  | queued here => simp [State.failure?, State.refusal?, Scan.fault?, here]
  | stopped here deserted =>
    obtain ⟨cause, left⟩ := refused_of_deserted valid here deserted
    simp [State.failure?, State.refusal?, left]
  | asked here => simp [State.failure?, State.refusal?, here]
  | admitted here answer => simp [State.failure?, State.refusal?, here, answer]
  | refused here answer => simp [State.failure?, State.refusal?, here, answer]
  | taken here | saved here | failed here | drained here =>
    simp [State.failure?, State.refusal?, here]

/-- The failure that a replay ends with is that of its login, or else that of its log. -/
theorem failure?_start_eq (setup : Setup Memory) (stream : Log.Stream) :
    (State.start setup stream).failure? setup =
      match (setup.service.login setup.service.fresh setup.credentials).1 with
      | .ok _ => stream.fault?.map .io
      | .error refusal => some refusal := by
  simp only [State.failure?, State.refusal?, State.start, Scan.fault?, Log.Reader.ofStream]
  cases (setup.service.login setup.service.fresh setup.credentials).1 <;> rfl

/-- What a replay needs in order to succeed, and all that it needs: a whole log, and an
accepted login. -/
theorem failure?_start_eq_none_iff : (State.start setup stream).failure? setup = none ↔
    stream.fault? = none ∧ ∃ session memory,
      setup.service.login setup.service.fresh setup.credentials = (.ok session, memory) := by
  rcases login : setup.service.login setup.service.fresh setup.credentials with ⟨answer, memory⟩
  cases answer <;>
    simp [State.failure?, State.refusal?, State.start, Scan.fault?, Log.Reader.ofStream, login]

theorem failure?_execute (setup : Setup Memory) (stream : Log.Stream) (schedule : List Side) :
    (execute setup schedule (State.start setup stream)).failure? setup =
      (State.start setup stream).failure? setup := by
  have start : (State.start setup stream).Attended := fun left => by cases left
  refine (execute_induction (fun t => t.Attended ∧ t.failure? setup =
    (State.start setup stream).failure? setup) ⟨start, rfl⟩ ?_ schedule).2
  intro s t valid step
  exact ⟨attended_step valid.1 step, (failure?_step valid.1 step).trans valid.2⟩

theorem result?_of_isOver (setup : Setup Memory) (h : s.isOver = true) :
    (∃ cause, s.failure? setup = some cause ∧ s.result? = some (.error cause)) ∨
    (∃ lines, s.failure? setup = none ∧ s.scan = .done lines ∧ s.worker = .done ∧
      s.result? = some (.ok ⟨lines, s.parsed, s.dropped, s.tally⟩)) := by
  obtain ⟨scanned, worked⟩ : s.scan.isOver = true ∧ s.worker.isOver = true := by
    simpa [State.isOver] using h
  cases worker : s.worker with
  | refused cause =>
    refine .inl ⟨cause, by simp [State.failure?, State.refusal?, worker], ?_⟩
    cases scan : s.scan <;> simp_all [State.result?, State.tally?, Scan.isOver]
  | done =>
    cases scan : s.scan with
    | done lines =>
      refine .inr ⟨lines, ?_, rfl, rfl, ?_⟩
      · simp [State.failure?, State.refusal?, Scan.fault?, worker, scan]
      · simp [State.result?, State.tally?, worker, scan]
    | broken cause =>
      refine .inl ⟨.io cause, ?_, ?_⟩
      · simp [State.failure?, State.refusal?, Scan.fault?, worker, scan]
      · simp [State.result?, State.tally?, worker, scan]
    | reading | sending => simp [scan, Scan.isOver] at scanned
  | idle | loggingIn | ready | saving => simp [worker, Worker.isOver] at worked

theorem calls_closed (result : Except Failure Summary) (trace : Trace) :
    (closed result trace).calls = trace.calls := by
  cases result <;> rfl

/-- The run that moves the scan first is one schedule among all, brought to its end. -/
theorem run_eq_execute (setup : Setup Memory) (stream : Log.Stream) :
    ∃ schedule, let s := execute setup schedule (State.start setup stream)
      s.isOver = true ∧ s.result? = some (run setup stream).result ∧
      (run setup stream).trace = closed (run setup stream).result s.trace ∧
      (run setup stream).memory = s.memory := by
  obtain ⟨schedule, eq⟩ := exists_execute_eq_complete setup (State.start setup stream)
  refine ⟨schedule, ?_⟩
  simp only [eq]
  exact ⟨complete_isOver _ _, by simp [run], rfl, rfl⟩

/-- At the end of every schedule all planned calls have been made and have settled, and the
service has seen no others. -/
theorem calls_of_isOver (setup : Setup Memory) (stream : Log.Stream) (schedule : List Side)
    (h : (execute setup schedule (State.start setup stream)).isOver = true) :
    let s := execute setup schedule (State.start setup stream)
    let calls := (State.start setup stream).planned setup
    s.trace.calls.reverse = calls ∧ s.trace.inFlight = 0 ∧
      s.memory = calls.foldl setup.service.after setup.service.fresh := by
  intro s calls
  have planned : s.planned setup = calls := (planned_execute schedule).1
  have remembered : s.remembered setup = calls.foldl setup.service.after setup.service.fresh :=
    (planned_execute schedule).2
  have last : s.planned setup = s.trace.calls.reverse ∧ s.remembered setup = s.memory :=
    planned_of_isOver h
  refine ⟨last.1.symm.trans planned, ?_, last.2.symm.trans remembered⟩
  rw [(serial_execute setup stream schedule).inFlight, underway_of_isOver h, List.length_nil]

/-- Over a log without read errors and behind an accepted login, every schedule makes the
same calls: the login, then one update for each line that gives an order line, in the
order of the lines, each begun when the one before has settled. Any schedule can be
continued to its end, and at its end, whatever the updates were answered, the run has
succeeded, every call has settled, and the service remembers these calls and no others. -/
theorem calls_in_order (setup : Setup Memory) (stream : Log.Stream) {session : Okapi.Session}
    {memory : Memory} (whole : stream.fault? = none)
    (admitted : setup.service.login setup.service.fresh setup.credentials =
      (.ok session, memory)) :
    let calls : List Okapi.Call := .login setup.credentials ::
      (orderLines setup.extent stream.texts).map (.update session)
    (∀ schedule, let s := execute setup schedule (State.start setup stream)
      s.trace.calls.reverse <+: calls ∧ s.trace.peak ≤ 1 ∧
      (∃ more, (execute setup more s).isOver = true) ∧
      (s.isOver = true → (∃ summary, s.result? = some (.ok summary)) ∧
        s.trace.calls.reverse = calls ∧ s.trace.inFlight = 0 ∧
        s.memory = calls.foldl setup.service.after setup.service.fresh)) ∧
    (∃ summary, (run setup stream).result = .ok summary) ∧
      (run setup stream).trace.calls.reverse = calls := by
  intro calls
  have start : (State.start setup stream).planned setup = calls := by
    simp [planned_start, admitted, calls]
  have sound : (State.start setup stream).failure? setup = none := by
    simp [State.failure?, State.refusal?, State.start, Scan.fault?, Log.Reader.ofStream, whole,
      admitted]
  have ending (schedule : List Side) :
      let s := execute setup schedule (State.start setup stream)
      s.isOver = true → (∃ summary, s.result? = some (.ok summary)) ∧
        s.trace.calls.reverse = calls ∧ s.trace.inFlight = 0 ∧
        s.memory = calls.foldl setup.service.after setup.service.fresh := by
    intro s ended
    refine ⟨?_, start ▸ calls_of_isOver setup stream schedule ended⟩
    have same : s.failure? setup = none := (failure?_execute setup stream schedule).trans sound
    rcases result?_of_isOver setup ended with ⟨cause, failed, _⟩ | ⟨lines, _, _, _, result⟩
    · rw [same] at failed
      cases failed
    · exact ⟨_, result⟩
  constructor
  · intro schedule s
    have planned : s.planned setup = calls := (planned_execute schedule).1.trans start
    obtain ⟨more, complete⟩ := exists_execute_eq_complete setup s
    refine ⟨?_, (serial_execute setup stream schedule).peak, ⟨more, ?_⟩, ending schedule⟩
    · rw [← planned]
      exact List.prefix_append _ _
    · rw [complete]
      exact complete_isOver setup s
  · obtain ⟨schedule, ended, result, trace, _⟩ := run_eq_execute setup stream
    obtain ⟨⟨summary, succeeded⟩, made, _⟩ := ending schedule ended
    refine ⟨⟨summary, ?_⟩, ?_⟩
    · rw [result] at succeeded
      exact Option.some.inj succeeded
    · rw [trace, calls_closed, made]

/-- Two equal failure lines with another line between them, both updates rejected. -/
theorem calls_in_order_equal_lines :
    let rehearsal : Okapi.Rehearsal := ⟨['t'], none, [(['a'], ⟨422, by decide, by decide⟩)]⟩
    let setup : Setup Unit := ⟨Payload.outerBraces, rehearsal.service, ⟨['u'], ['p']⟩⟩
    let line := FailureLine.marker ++ " \x7b\"id\":\"a\"\x7d\n".toList
    let stream : Log.Stream :=
      [.octets (Text.Utf8.encode (line ++ ['I', 'N', '\n'])), .octets (Text.Utf8.encode line)]
    stream.fault? = none ∧
      setup.service.login setup.service.fresh setup.credentials = (.ok ⟨['t']⟩, ()) ∧
      (run setup stream).trace.calls.length = 3 := by
  intro rehearsal setup line stream
  refine ⟨rfl, rfl, ?_⟩
  have admitted : setup.service.login setup.service.fresh setup.credentials =
      (.ok ⟨['t']⟩, ()) := rfl
  have calls := (calls_in_order setup stream rfl admitted).2.2
  rw [← List.length_reverse, calls, List.length_cons, List.length_map]
  decide +kernel

end OrderReplay.Replay

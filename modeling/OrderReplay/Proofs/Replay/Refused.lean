import OrderReplay.Proofs.Replay.Scanned

/-! A replay whose login is refused. The worker leaves without taking anything, so the scan
comes no further than the queue and one order line more, and with the first order line that
nobody takes it stops: the lines behind that one are not looked at. -/
namespace OrderReplay.Replay

open FailureLine (orderLines)

variable {Memory : Type} {setup : Setup Memory} {stream : Log.Stream} {s t : State Memory}
  {read : List Text}

/-- Order lines that the scan may parse before it has to hand one over. -/
def Scan.room : Scan → Nat
  | .reading _ => 1
  | .sending .. | .done _ | .broken _ => 0

theorem taken_event (e : Event) (trace : Trace) :
    Trace.taken (.event e :: trace) = trace.taken := rfl

theorem taken_settled (accepted : Bool) (trace : Trace) :
    Trace.taken (.settled accepted :: trace) = trace.taken := rfl

theorem taken_login (credentials : Okapi.Credentials) (trace : Trace) :
    Trace.taken (.began (.login credentials) :: trace) = trace.taken := by
  simp [Trace.taken, Trace.calls, Okapi.Call.line?]

theorem taken_update (session : Okapi.Session) (line : OrderLine) (trace : Trace) :
    Trace.taken (.began (.update session line) :: trace) = trace.taken ++ [line] := by
  simp [Trace.taken, Trace.calls, Okapi.Call.line?]

/-- The scan is never ahead of the worker by more than a full queue and one order line. -/
theorem ahead_step (valid : Measured setup stream s)
    (ahead : s.parsed + s.scan.room ≤ s.trace.taken.length + (capacity + 1))
    (h : Step setup s t) : t.parsed + t.scan.room ≤ t.trace.taken.length + (capacity + 1) := by
  cases h with
  | ended here | interrupted here | skipped here =>
    simp only [here, Scan.room] at ahead ⊢
    omega
  | recovered here | dropped here =>
    simp only [here, Scan.room, taken_event] at ahead ⊢
    omega
  | queued here listened room =>
    -- The place found in the queue is the room for the next order line.
    have open? (cause : Failure) : s.worker ≠ .refused cause := by
      intro left
      simp [left, Worker.isOver] at listened
    obtain ⟨read, -, parsed, lines⟩ := valid.accounts open?
    have count : s.parsed = s.trace.taken.length + s.queue.length + 1 := by
      simp [parsed, lines, here, Scan.held?, Nat.add_assoc]
    simp only [Scan.room]
    omega
  | stopped here =>
    simp only [here, Scan.room, taken_event] at ahead ⊢
    exact ahead
  | asked => simpa only [taken_login, taken_event] using ahead
  | admitted | refused | saved | failed => simpa only [taken_event, taken_settled] using ahead
  | taken =>
    rw [taken_update, taken_event, List.length_append]
    exact Nat.le_trans ahead (by omega)
  | drained => exact ahead

theorem ahead_execute (setup : Setup Memory) (stream : Log.Stream) (schedule : List Side) :
    let s := execute setup schedule (State.start setup stream)
    s.parsed ≤ s.trace.taken.length + (capacity + 1) := by
  intro s
  have both : Measured setup stream s ∧
      s.parsed + s.scan.room ≤ s.trace.taken.length + (capacity + 1) := by
    refine execute_induction (fun t => Measured setup stream t ∧
      t.parsed + t.scan.room ≤ t.trace.taken.length + (capacity + 1)) ⟨?_, ?_⟩ ?_ schedule
    · exact measured_start setup stream
    · exact Nat.succ_le_succ (Nat.zero_le _)
    · exact fun _ _ valid step =>
        ⟨measured_step valid.1 step, ahead_step valid.1 valid.2 step⟩
  exact Nat.le_trans (Nat.le_add_right _ _) both.2

/-- When the worker has left, only the scan makes steps, and it never gets back to reading. -/
theorem step_of_deserted (deserted : s.worker.isOver = true) (h : Step setup s t) :
    t.worker = s.worker ∧
      ∀ after, t.scan = .reading after → ∃ reader, s.scan = .reading reader := by
  cases h with
  | ended here | interrupted here | skipped here | recovered here | dropped here =>
    exact ⟨rfl, fun _ _ => ⟨_, here⟩⟩
  | stopped =>
    refine ⟨rfl, fun after next => ?_⟩
    cases next
  | queued _ listened =>
    rw [deserted] at listened
    cases listened
  | asked here | admitted here | refused here | taken here | saved here | failed here
  | drained here =>
    rw [here] at deserted
    cases deserted

/-- What the scan reads after the worker has left: nothing if it had an order line to send
or was over, and otherwise the lines up to the first one that gives an order line. -/
structure Trailing (setup : Setup Memory) (s t : State Memory) (more : List Text) : Prop where
  quiet : orderLines setup.extent more.dropLast = []
  unread : (∀ reader, s.scan ≠ .reading reader) → more = []
  clear : ∀ after, t.scan = .reading after →
    (∃ reader, s.scan = .reading reader) ∧ orderLines setup.extent more = []

theorem trailing_execute (attended : s.Attended) (deserted : s.worker.isOver = true)
    (valid : Scanned setup stream read s) (schedule : List Side) :
    ∃ more, Scanned setup stream (read ++ more) (execute setup schedule s) ∧
      Trailing setup s (execute setup schedule s) more := by
  refine (execute_induction (fun t => t.Attended ∧ t.worker.isOver = true ∧
    ∃ more, Scanned setup stream (read ++ more) t ∧ Trailing setup s t more) ?_ ?_ schedule).2.2
  · exact ⟨attended, deserted, [], by rwa [List.append_nil], rfl, fun _ => rfl,
      fun after here => ⟨⟨after, here⟩, rfl⟩⟩
  · rintro t u ⟨attended, deserted, more, valid, trailing⟩ step
    obtain ⟨worker, back⟩ := step_of_deserted deserted step
    obtain ⟨next, further, reads⟩ := scanned_step attended valid step
    refine ⟨attended_step attended step, worker ▸ deserted, more ++ next,
      by rwa [← List.append_assoc], ?_⟩
    rcases reads with rfl | ⟨reader, text, here, rfl, gives⟩
    · rw [List.append_nil]
      refine ⟨trailing.quiet, trailing.unread, fun after next => ?_⟩
      obtain ⟨reader, before⟩ := back after next
      exact trailing.clear reader before
    · obtain ⟨⟨first, start⟩, silent⟩ := trailing.clear reader here
      refine ⟨?_, fun other => absurd start (other first), fun after next => ⟨⟨first, start⟩, ?_⟩⟩
      · rw [List.dropLast_concat]
        exact silent
      · rw [orderLines_append, silent, gives after next, List.append_nil]

/-- A refused login, under every schedule. The login is the only call. The scan never parses
more than 65 order lines, and what it has counted and said is told by the lines it has read;
once the worker has left it reads no line behind the first that gives an order line. Every
schedule can be continued to the end, and the replay ends with the refusal. -/
theorem refused_login_stops_scan (setup : Setup Memory) (stream : Log.Stream) {cause : Failure}
    (refused : (setup.service.login setup.service.fresh setup.credentials).1 = .error cause) :
    (∀ schedule, let s := execute setup schedule (State.start setup stream)
      s.trace.calls.reverse <+: [.login setup.credentials] ∧
      s.parsed ≤ 65 ∧
      (∃ read, Scanned setup stream read s ∧
        (s.worker.isOver = true → ∀ later, ∃ more,
          Scanned setup stream (read ++ more) (execute setup later s) ∧
          orderLines setup.extent more.dropLast = [] ∧
          ((∀ reader, s.scan ≠ .reading reader) → more = []))) ∧
      (∃ more, (execute setup more s).isOver = true) ∧
      (s.isOver = true → s.result? = some (.error cause) ∧
        s.trace.calls = [.login setup.credentials] ∧ s.trace.inFlight = 0)) ∧
    (run setup stream).result = .error cause ∧
      (run setup stream).trace.calls = [.login setup.credentials] := by
  have start : (State.start setup stream).planned setup = [.login setup.credentials] := by
    rw [planned_start, refused]
  have fails : (State.start setup stream).failure? setup = some cause := by
    simp [State.failure?, State.refusal?, State.start, refused]
  have ending (schedule : List Side) :
      let s := execute setup schedule (State.start setup stream)
      s.isOver = true → s.result? = some (.error cause) ∧
        s.trace.calls = [.login setup.credentials] ∧ s.trace.inFlight = 0 := by
    intro s ended
    obtain ⟨made, settled, -⟩ := calls_of_isOver setup stream schedule ended
    have same : s.failure? setup = some cause :=
      (failure?_execute setup stream schedule).trans fails
    refine ⟨?_, by simpa [start] using made, settled⟩
    rcases result?_of_isOver setup ended with ⟨other, failed, result⟩ | ⟨_, sound, _⟩
    · obtain rfl : other = cause := Option.some.inj (failed.symm.trans same)
      exact result
    · rw [same] at sound
      cases sound
  constructor
  · intro schedule s
    have begun : s.trace.calls.reverse <+: [.login setup.credentials] := by
      rw [← start, ← (planned_execute schedule).1]
      exact List.prefix_append _ _
    have nothing : s.trace.taken = [] := by
      obtain ⟨rest, split⟩ := begun
      have lines := congrArg (List.filterMap Okapi.Call.line?) split
      rw [List.filterMap_append] at lines
      exact (List.append_eq_nil_iff.1 lines).1
    have ahead : s.parsed ≤ s.trace.taken.length + (capacity + 1) :=
      ahead_execute setup stream schedule
    rw [nothing] at ahead
    obtain ⟨read, valid⟩ := scanned_execute setup stream schedule
    have attended := (measured_execute setup stream schedule).attended
    obtain ⟨more, complete⟩ := exists_execute_eq_complete setup s
    refine ⟨begun, ahead, ⟨read, valid, fun deserted later => ?_⟩, ⟨more, ?_⟩, ending schedule⟩
    · obtain ⟨more, further, trailing⟩ := trailing_execute attended deserted valid later
      exact ⟨more, further, trailing.quiet, trailing.unread⟩
    · rw [complete]
      exact complete_isOver setup s
  · obtain ⟨schedule, ended, result, trace, -⟩ := run_eq_execute setup stream
    obtain ⟨failed, made, -⟩ := ending schedule ended
    refine ⟨?_, by rw [trace, calls_closed, made]⟩
    rw [result] at failed
    exact Option.some.inj failed

/-- The worker has left before the scan begins. The first line is the last one looked at, so
nothing is said of the second, which holds no object. -/
theorem refused_login_stops_scan_at_once :
    let cause : Failure := .rejected .post Okapi.loginPath ⟨401, by decide, by decide⟩
      "Invalid credentials".toList
    let rehearsal : Okapi.Rehearsal := ⟨['t'], some ⟨401, by decide, by decide⟩, []⟩
    let setup : Setup Unit := ⟨Payload.outerBraces, rehearsal.service, ⟨['u'], ['p']⟩⟩
    let line := FailureLine.marker ++ " \x7b\"id\":\"a\"\x7d\n".toList
    let stream : Log.Stream := [.octets (Text.Utf8.encode (line ++ FailureLine.marker))]
    let s := execute setup [.worker, .worker, .scan, .scan] (State.start setup stream)
    (setup.service.login setup.service.fresh setup.credentials).1 = .error cause ∧
      s.result? = some (.error cause) ∧ s.trace.calls = [.login setup.credentials] ∧
      s.trace.spoken .replay = [.scanStopped 1] := by
  intro cause rehearsal setup line stream s
  have refused : (setup.service.login setup.service.fresh setup.credentials).1 = .error cause :=
    rfl
  have ended : s.isOver = true := by decide +kernel
  have said : s.trace.spoken .replay = [.scanStopped 1] := by decide +kernel
  obtain ⟨-, -, -, -, ending⟩ := (refused_login_stops_scan setup stream refused).1
    [.worker, .worker, .scan, .scan]
  obtain ⟨result, calls, -⟩ := ending ended
  exact ⟨refused, result, calls, said⟩

end OrderReplay.Replay

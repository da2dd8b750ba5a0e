import OrderReplay.Proofs.Replay.Step

/-! Which calls a replay makes, told from its log alone. The calls that a state has begun,
followed by those that it has still to begin, are one list that no step changes: a step
at most moves a call from the second part to the first. The schedule is not mentioned. -/
namespace OrderReplay

def FailureLine.Outcome.line? : FailureLine.Outcome → Option OrderLine
  | .recovered line => some line
  | .skipped | .dropped _ => none

/-- Order lines that the lines of a log give, one for each line that gives one. -/
def FailureLine.orderLines (extent : Payload.Extent) (texts : List Text) : List OrderLine :=
  texts.filterMap fun text => (outcome extent text).line?

def Okapi.Service.after {Memory : Type} (service : Okapi.Service Memory) (memory : Memory) :
    Okapi.Call → Memory
  | .login credentials => (service.login memory credentials).2
  | .update session line => (service.update memory session line).2

namespace Replay

open FailureLine (orderLines)

variable {Memory : Type} {setup : Setup Memory} {s t : State Memory}

def Scan.ahead (extent : Payload.Extent) : Scan → List OrderLine
  | .reading reader => orderLines extent reader.rest.texts
  | .sending reader _ line => line :: orderLines extent reader.rest.texts
  | .done _ | .broken _ => []

namespace State

def underway (setup : Setup Memory) (s : State Memory) : List Okapi.Call :=
  match s.worker with
  | .loggingIn => [.login setup.credentials]
  | .saving session line => [.update session line]
  | _ => []

/-- Order lines that no update has begun for. -/
def waiting (setup : Setup Memory) (s : State Memory) : List OrderLine :=
  s.queue ++ s.scan.ahead setup.extent

/-- The session that the worker has, or will have once the service answers its login. -/
def session? (setup : Setup Memory) (s : State Memory) : Option Okapi.Session :=
  match s.worker with
  | .idle | .loggingIn => (setup.service.login s.memory setup.credentials).1.toOption
  | .ready session | .saving session _ => some session
  | .done | .refused _ => none

def updates (setup : Setup Memory) (s : State Memory) : List Okapi.Call :=
  match s.session? setup with
  | some session => (s.waiting setup).map (.update session)
  | none => []

def toBegin (setup : Setup Memory) (s : State Memory) : List Okapi.Call :=
  match s.worker with
  | .idle => .login setup.credentials :: s.updates setup
  | _ => s.updates setup

/-- All calls of a run, those that have begun first. -/
def planned (setup : Setup Memory) (s : State Memory) : List Okapi.Call :=
  s.trace.calls.reverse ++ s.toBegin setup

/-- What the service will remember when the last call has settled. -/
def remembered (setup : Setup Memory) (s : State Memory) : Memory :=
  (s.underway setup ++ s.toBegin setup).foldl setup.service.after s.memory

end State

theorem orderLines_skipped {extent : Payload.Extent} {text : Text} (texts : List Text)
    (h : FailureLine.outcome extent text = .skipped) :
    orderLines extent (text :: texts) = orderLines extent texts := by
  simp [orderLines, h, FailureLine.Outcome.line?]

theorem orderLines_recovered {extent : Payload.Extent} {text : Text} {line : OrderLine}
    (texts : List Text) (h : FailureLine.outcome extent text = .recovered line) :
    orderLines extent (text :: texts) = line :: orderLines extent texts := by
  simp [orderLines, h, FailureLine.Outcome.line?]

theorem orderLines_dropped {extent : Payload.Extent} {text : Text} {reason : Unrecovered}
    (texts : List Text) (h : FailureLine.outcome extent text = .dropped reason) :
    orderLines extent (text :: texts) = orderLines extent texts := by
  simp [orderLines, h, FailureLine.Outcome.line?]

theorem ahead_of_isOver {extent : Payload.Extent} {scan : Scan} (h : scan.isOver = true) :
    scan.ahead extent = [] := by
  cases scan <;> simp_all [Scan.isOver, Scan.ahead]

theorem updates_of_isOver (h : s.worker.isOver = true) : s.updates setup = [] := by
  cases eq : s.worker <;> simp_all [Worker.isOver, State.updates, State.session?]

/-- A state in which the worker, the service, the calls begun and the order lines waiting
are the same has the same calls before it. -/
theorem planned_congr (worker : t.worker = s.worker) (memory : t.memory = s.memory)
    (calls : t.trace.calls = s.trace.calls)
    (waiting : s.worker.isOver = false → t.waiting setup = s.waiting setup) :
    t.planned setup = s.planned setup ∧ t.remembered setup = s.remembered setup := by
  have session : t.session? setup = s.session? setup := by
    simp only [State.session?, worker, memory]
  have updates : t.updates setup = s.updates setup := by
    cases ended : s.worker.isOver with
    | false => simp only [State.updates, session, waiting ended]
    | true => rw [updates_of_isOver ended, updates_of_isOver (worker ▸ ended)]
  have toBegin : t.toBegin setup = s.toBegin setup := by
    simp only [State.toBegin, worker, updates]
  have underway : t.underway setup = s.underway setup := by
    simp only [State.underway, worker]
  exact ⟨by simp only [State.planned, calls, toBegin],
    by simp only [State.remembered, memory, underway, toBegin]⟩

/-- A step that leaves the worker as it is leaves what waits for the worker as it is. -/
theorem waiting_step (h : Step setup s t) (same : t.worker = s.worker)
    (listened : s.worker.isOver = false) : t.waiting setup = s.waiting setup := by
  cases h with
  | ended here last | interrupted here last =>
    simp [State.waiting, here, Scan.ahead, last, orderLines]
  | skipped here yields is =>
    simp [State.waiting, here, Scan.ahead, yields.texts, orderLines_skipped _ is]
  | recovered here yields is =>
    simp [State.waiting, here, Scan.ahead, yields.texts, orderLines_recovered _ is]
  | dropped here yields is =>
    simp [State.waiting, here, Scan.ahead, yields.texts, orderLines_dropped _ is]
  | queued here => simp [State.waiting, here, Scan.ahead]
  | stopped here deserted =>
    rw [listened] at deserted
    cases deserted
  | asked here | admitted here | refused here | taken here | saved here | failed here
  | drained here =>
    rw [here] at same
    cases same

/-- No step changes the calls of the run, nor what the service will remember of them. -/
theorem planned_step (h : Step setup s t) :
    t.planned setup = s.planned setup ∧ t.remembered setup = s.remembered setup := by
  have step := h
  cases h with
  | ended | interrupted | skipped | recovered | dropped | queued | stopped =>
    exact planned_congr rfl rfl rfl (waiting_step step rfl)
  | asked here =>
    simp [State.planned, State.remembered, State.underway, State.toBegin, State.updates,
      State.session?, State.waiting, Trace.calls, here]
  | admitted here answer =>
    simp [State.planned, State.remembered, State.underway, State.toBegin, State.updates,
      State.session?, State.waiting, Trace.calls, Okapi.Service.after, Except.toOption, here,
      answer]
  | refused here answer =>
    simp [State.planned, State.remembered, State.underway, State.toBegin, State.updates,
      State.session?, Trace.calls, Okapi.Service.after, Except.toOption, here, answer]
  | taken here first =>
    simp [State.planned, State.remembered, State.underway, State.toBegin, State.updates,
      State.session?, State.waiting, Trace.calls, here, first]
  | saved here answer =>
    simp [State.planned, State.remembered, State.underway, State.toBegin, State.updates,
      State.session?, State.waiting, Trace.calls, Okapi.Service.after, here, answer]
  | failed here answer =>
    simp [State.planned, State.remembered, State.underway, State.toBegin, State.updates,
      State.session?, State.waiting, Trace.calls, Okapi.Service.after, here, answer]
  | drained here empty silent =>
    simp [State.planned, State.remembered, State.underway, State.toBegin, State.updates,
      State.session?, State.waiting, ahead_of_isOver silent, here, empty]

theorem planned_execute (schedule : List Side) :
    (execute setup schedule s).planned setup = s.planned setup ∧
      (execute setup schedule s).remembered setup = s.remembered setup :=
  execute_induction (fun t => t.planned setup = s.planned setup ∧
      t.remembered setup = s.remembered setup) ⟨rfl, rfl⟩
    (fun _ _ same step =>
      ⟨(planned_step step).1.trans same.1, (planned_step step).2.trans same.2⟩) schedule

/-- A state before the first step of the worker, and the order lines that it has to update once
its login is accepted. -/
structure Unbegun (setup : Setup Memory) (lines : List OrderLine) (s : State Memory) : Prop where
  idle : s.worker = .idle
  uncalled : s.trace.calls = []
  fresh : s.memory = setup.service.fresh
  waiting : s.waiting setup = lines

theorem unbegun_start (setup : Setup Memory) (stream : Log.Stream) :
    Unbegun setup (orderLines setup.extent stream.texts) (State.start setup stream) :=
  ⟨rfl, rfl, rfl, rfl⟩

theorem unbegun_filled (setup : Setup Memory) (lines : List OrderLine) :
    Unbegun setup lines (State.filled setup lines) :=
  ⟨rfl, rfl, rfl, List.append_nil lines⟩

/-- The worker makes one login and, if that is accepted, one update for each order line. -/
theorem Unbegun.planned {lines : List OrderLine} (unbegun : Unbegun setup lines s) :
    s.planned setup = .login setup.credentials ::
      match (setup.service.login setup.service.fresh setup.credentials).1 with
      | .ok session => lines.map (.update session)
      | .error _ => [] := by
  obtain ⟨idle, uncalled, fresh, waiting⟩ := unbegun
  simp only [State.planned, State.toBegin, State.updates, State.session?, idle, uncalled, fresh,
    waiting, List.reverse_nil, List.nil_append]
  cases (setup.service.login setup.service.fresh setup.credentials).1 <;> rfl

theorem Unbegun.remembered {lines : List OrderLine} (unbegun : Unbegun setup lines s) :
    s.remembered setup = (s.planned setup).foldl setup.service.after setup.service.fresh := by
  obtain ⟨idle, uncalled, fresh, -⟩ := unbegun
  simp [State.remembered, State.planned, State.underway, idle, uncalled, fresh]

theorem planned_start (setup : Setup Memory) (stream : Log.Stream) :
    (State.start setup stream).planned setup = .login setup.credentials ::
      match (setup.service.login setup.service.fresh setup.credentials).1 with
      | .ok session => (orderLines setup.extent stream.texts).map (.update session)
      | .error _ => [] :=
  (unbegun_start setup stream).planned

theorem underway_of_isOver (h : s.isOver = true) : s.underway setup = [] := by
  cases eq : s.worker <;> simp_all [State.isOver, Worker.isOver, State.underway]

theorem toBegin_of_isOver (h : s.isOver = true) : s.toBegin setup = [] := by
  cases eq : s.worker <;>
    simp_all [State.isOver, Worker.isOver, State.toBegin, State.updates, State.session?]

/-- When both sides are over, the calls planned are those that were made. -/
theorem planned_of_isOver (h : s.isOver = true) :
    s.planned setup = s.trace.calls.reverse ∧ s.remembered setup = s.memory :=
  ⟨by simp [State.planned, toBegin_of_isOver h],
    by simp [State.remembered, underway_of_isOver h, toBegin_of_isOver h]⟩

/-- A call is in flight exactly while the worker waits for an answer, and never were there
two at once. -/
structure Serial (setup : Setup Memory) (s : State Memory) : Prop where
  inFlight : s.trace.inFlight = (s.underway setup).length
  peak : s.trace.peak ≤ 1

theorem serial_start (setup : Setup Memory) (stream : Log.Stream) :
    Serial setup (State.start setup stream) := by
  constructor <;> simp [State.start, State.underway, Trace.inFlight, Trace.peak, Trace.load]

theorem inFlight_le_peak (trace : Trace) : trace.inFlight ≤ trace.peak := by
  cases trace with
  | nil => exact Nat.le_refl _
  | cons entry rest =>
    rw [Trace.peak_cons]
    exact Nat.le_max_left _ _

theorem serial_step (valid : Serial setup s) (h : Step setup s t) : Serial setup t := by
  obtain ⟨inFlight, peak⟩ := valid
  have bounded := inFlight_le_peak s.trace
  cases h with
  | ended | interrupted | skipped | recovered | queued => exact ⟨inFlight, peak⟩
  | dropped | stopped =>
    refine ⟨inFlight, ?_⟩
    simp only [Trace.peak_cons, Trace.inFlight_cons, Trace.countAfter]
    omega
  | asked here | taken here =>
    simp only [State.underway, here, List.length_nil] at inFlight
    constructor
    · simp [Trace.inFlight_cons, Trace.countAfter, State.underway, inFlight]
    · simp only [Trace.peak_cons, Trace.inFlight_cons, Trace.countAfter]
      omega
  | admitted here | refused here | saved here | failed here =>
    simp only [State.underway, here, List.length_singleton] at inFlight
    constructor
    · simp [Trace.inFlight_cons, Trace.countAfter, State.underway, inFlight]
    · simp only [Trace.peak_cons, Trace.inFlight_cons, Trace.countAfter]
      omega
  | drained here =>
    refine ⟨?_, peak⟩
    simpa only [State.underway, here] using inFlight

theorem serial_execute (setup : Setup Memory) (stream : Log.Stream) (schedule : List Side) :
    Serial setup (execute setup schedule (State.start setup stream)) :=
  execute_induction (Serial setup) (serial_start setup stream) (fun _ _ => serial_step) schedule

end Replay
end OrderReplay

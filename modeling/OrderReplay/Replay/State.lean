import OrderReplay.Event
import OrderReplay.Log.Reader
import OrderReplay.Okapi.Service

/-! A replay as two sides joined by a bounded queue. The scan reads the log and queues
the order lines it recovers; the worker logs in and then updates them one by one. Each
side moves by small steps, and every interleaving of the steps is a run: the model
gives no side precedence. Time, and the buffering of the log, are not modelled. -/
namespace OrderReplay.Replay

/-- Order lines that may wait between the scan and the worker. -/
def capacity : Nat := 64

inductive Side where
  | scan
  | worker
  deriving DecidableEq, Repr

/-- What does not change during a run. -/
structure Setup (Memory : Type) where
  extent : Payload.Extent
  service : Okapi.Service Memory
  credentials : Okapi.Credentials

inductive Scan where
  | reading (reader : Log.Reader)
  /-- An order line from the line with this number waits for a place in the queue. -/
  | sending (reader : Log.Reader) (number : Nat) (line : OrderLine)
  /-- The scan is over after so many lines. -/
  | done (lines : Nat)
  | broken (cause : Text)

def Scan.isOver : Scan → Bool
  | .done _ | .broken _ => true
  | _ => false

inductive Worker where
  | idle
  | loggingIn
  | ready (session : Okapi.Session)
  | saving (session : Okapi.Session) (line : OrderLine)
  | done
  | refused (cause : Failure)

/-- The worker that is over takes nothing from the queue any more. -/
def Worker.isOver : Worker → Bool
  | .done | .refused _ => true
  | _ => false

/-- What happened, as far as it can be observed: calls, their answers, and events. -/
inductive Entry where
  | began (call : Okapi.Call)
  | settled (accepted : Bool)
  | event (event : Event)

/-- The newest entry comes first. -/
abbrev Trace := List Entry

namespace Trace

def calls : Trace → List Okapi.Call
  | [] => []
  | .began call :: rest => call :: calls rest
  | _ :: rest => calls rest

def events (trace : Trace) : List Event :=
  trace.reverse.filterMap fun
    | .event e => some e
    | _ => none

def countAfter (inFlight : Nat) : Entry → Nat
  | .began _ => inFlight + 1
  | .settled _ => inFlight - 1
  | .event _ => inFlight

/-- Calls in flight, and the most that there ever were. -/
def load : Trace → Nat × Nat
  | [] => (0, 0)
  | entry :: rest =>
    let (inFlight, most) := load rest
    (countAfter inFlight entry, max (countAfter inFlight entry) most)

def inFlight (trace : Trace) : Nat := trace.load.1

def peak (trace : Trace) : Nat := trace.load.2

theorem inFlight_cons (entry : Entry) (rest : Trace) :
    inFlight (entry :: rest) = countAfter (inFlight rest) entry := rfl

theorem peak_cons (entry : Entry) (rest : Trace) :
    peak (entry :: rest) = max (inFlight (entry :: rest)) (peak rest) := rfl

end Trace

variable {Memory : Type}

structure State (Memory : Type) where
  scan : Scan
  parsed : Nat
  dropped : Nat
  queue : List OrderLine
  worker : Worker
  tally : Tally
  trace : Trace
  /-- What the service remembers. -/
  memory : Memory

namespace State

def start (setup : Setup Memory) (stream : Log.Stream) : State Memory :=
  ⟨.reading (.ofStream stream), 0, 0, [], .idle, .zero, [], setup.service.fresh⟩

/-- A worker whose queue is filled and closed before it starts. -/
def filled (setup : Setup Memory) (lines : List OrderLine) : State Memory :=
  ⟨.done 0, 0, 0, lines, .idle, .zero, [], setup.service.fresh⟩

def isOver (s : State Memory) : Bool := s.scan.isOver && s.worker.isOver

end State

def readLine (setup : Setup Memory) (s : State Memory) (reader : Log.Reader) : State Memory :=
  match reader.next with
  | (.finished, after) => { s with scan := .done after.read }
  | (.fault cause, _) => { s with scan := .broken cause }
  | (.line line, after) =>
    match FailureLine.outcome setup.extent line.text with
    | .skipped => { s with scan := .reading after }
    | .recovered found =>
      { s with scan := .sending after line.number found, parsed := s.parsed + 1 }
    | .dropped reason =>
      { s with
        scan := .reading after
        dropped := s.dropped + 1
        trace := .event (.dropped line.number reason) :: s.trace }

/-- The next step of the scan; none while it waits for a place in the queue, and none
when it is over. -/
def scanStep? (setup : Setup Memory) (s : State Memory) : Option (State Memory) :=
  match s.scan with
  | .reading reader => some (readLine setup s reader)
  | .sending reader number line =>
    if s.worker.isOver then
      some { s with
        scan := .done reader.read
        trace := .event (.scanStopped number) :: s.trace }
    else if s.queue.length < capacity then
      some { s with scan := .reading reader, queue := s.queue ++ [line] }
    else none
  | .done _ | .broken _ => none

/-- The answer to a login. A worker that is refused drops the queue unread. -/
def settleLogin (s : State Memory) : Except Failure Okapi.Session → State Memory
  | .ok session =>
    { s with worker := .ready session, trace := .event .loggedIn :: .settled true :: s.trace }
  | .error cause =>
    { s with
      worker := .refused cause
      queue := []
      trace := .event (.loginFailed cause) :: .settled false :: s.trace }

/-- The answer to an update. A failed one is counted and reported, and ends nothing. -/
def settleUpdate (s : State Memory) (session : Okapi.Session) (line : OrderLine) :
    Except Failure Unit → State Memory
  | .ok () =>
    { s with
      worker := .ready session
      tally := { s.tally with succeeded := s.tally.succeeded + 1 }
      trace := .event (.saved line.id) :: .settled true :: s.trace }
  | .error cause =>
    { s with
      worker := .ready session
      tally := { s.tally with failed := s.tally.failed + 1 }
      trace := .event (.notSaved line.id cause) :: .settled false :: s.trace }

/-- The next step of the worker; none while it waits for the scan to queue something or
to end, and none when it is over. -/
def workerStep? (setup : Setup Memory) (s : State Memory) : Option (State Memory) :=
  match s.worker with
  | .idle =>
    some { s with
      worker := .loggingIn
      trace := .began (.login setup.credentials) ::
        .event (.loggingIn setup.credentials.username) :: s.trace }
  | .loggingIn =>
    let (answer, memory) := setup.service.login s.memory setup.credentials
    some (settleLogin { s with memory } answer)
  | .ready session =>
    match s.queue with
    | line :: rest =>
      some { s with
        worker := .saving session line
        queue := rest
        trace := .began (.update session line) :: .event (.attempting line.id) :: s.trace }
    | [] => if s.scan.isOver then some { s with worker := .done } else none
  | .saving session line =>
    let (answer, memory) := setup.service.update s.memory session line
    some (settleUpdate { s with memory } session line answer)
  | .done | .refused _ => none

/-- One step of one side. A side that cannot move lets the state be. -/
def advance (setup : Setup Memory) (side : Side) (s : State Memory) : State Memory :=
  match side with
  | .scan => (scanStep? setup s).getD s
  | .worker => (workerStep? setup s).getD s

def execute (setup : Setup Memory) : List Side → State Memory → State Memory
  | [], s => s
  | side :: schedule, s => execute setup schedule (advance setup side s)

theorem execute_append (setup : Setup Memory) (a b : List Side) (s : State Memory) :
    execute setup (a ++ b) s = execute setup b (execute setup a s) := by
  induction a generalizing s with
  | nil => rfl
  | cons side rest ih => exact ih _

end OrderReplay.Replay

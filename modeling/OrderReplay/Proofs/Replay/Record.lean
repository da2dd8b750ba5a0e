import OrderReplay.Proofs.Replay.Calls

/-! What the worker leaves in the trace: for each update that it is about to try it, the
call, its answer, and what came of it. The record of a whole replay is told from the log and
from the answers of the service alone; a step moves at most a part of it from what is still
to come to what is there. The worker's counts are those of its record. -/
namespace OrderReplay

def Okapi.Service.replies {Memory : Type} (service : Okapi.Service Memory)
    (session : Okapi.Session) : Memory → List OrderLine → List (Except Failure Unit)
  | _, [] => []
  | memory, line :: rest =>
    (service.update memory session line).1 ::
      service.replies session (service.update memory session line).2 rest

theorem Okapi.Service.length_replies {Memory : Type} (service : Okapi.Service Memory)
    (session : Okapi.Session) (memory : Memory) (lines : List OrderLine) :
    (service.replies session memory lines).length = lines.length := by
  induction lines generalizing memory with
  | nil => rfl
  | cons line rest ih => exact congrArg (· + 1) (ih _)

def Event.ofReply (line : OrderLine) : Except Failure Unit → Event
  | .ok () => .saved line.id
  | .error cause => .notSaved line.id cause

namespace Replay

open FailureLine (orderLines)

variable {Memory : Type} {setup : Setup Memory} {s t : State Memory}

/-- Whether the worker left an entry. All calls are the worker's. -/
def Entry.isWorkers : Entry → Bool
  | .began _ | .settled _ => true
  | .event e => e.speaker = .worker

/-- What the worker has left in a trace, the oldest first. -/
def Trace.worked (trace : Trace) : List Entry := (trace.filter Entry.isWorkers).reverse

@[simp] theorem Trace.worked_cons (entry : Entry) (rest : Trace) :
    Trace.worked (entry :: rest) =
      Trace.worked rest ++ if entry.isWorkers then [entry] else [] := by
  cases h : entry.isWorkers <;> simp [Trace.worked, h]

def settling (line : OrderLine) (reply : Except Failure Unit) : List Entry :=
  [.settled reply.toBool, .event (.ofReply line reply)]

def updating (session : Okapi.Session) (line : OrderLine) (reply : Except Failure Unit) :
    List Entry :=
  [.event (.attempting line.id), .began (.update session line)] ++ settling line reply

def updatings (session : Okapi.Session) (lines : List OrderLine)
    (replies : List (Except Failure Unit)) : List Entry :=
  (lines.zip replies).flatMap fun (line, reply) => updating session line reply

namespace State

/-- What the worker will leave of updates to order lines that are not yet taken. -/
def updatesAhead (setup : Setup Memory) (s : State Memory) (session : Okapi.Session)
    (memory : Memory) : List Entry :=
  updatings session (s.waiting setup)
    (setup.service.replies session memory (s.waiting setup))

def loginAhead (setup : Setup Memory) (s : State Memory) : List Entry :=
  match setup.service.login s.memory setup.credentials with
  | (.ok session, memory) =>
    [.settled true, .event .loggedIn] ++ s.updatesAhead setup session memory
  | (.error cause, _) => [.settled false, .event (.loginFailed cause)]

/-- What the worker has still to leave. -/
def recordAhead (setup : Setup Memory) (s : State Memory) : List Entry :=
  match s.worker with
  | .idle =>
    [.event (.loggingIn setup.credentials.username), .began (.login setup.credentials)] ++
      s.loginAhead setup
  | .loggingIn => s.loginAhead setup
  | .ready session => s.updatesAhead setup session s.memory
  | .saving session line =>
    let (reply, memory) := setup.service.update s.memory session line
    settling line reply ++ s.updatesAhead setup session memory
  | .done | .refused _ => []

/-- The whole of what the worker leaves, with what is there first. -/
def record (setup : Setup Memory) (s : State Memory) : List Entry :=
  s.trace.worked ++ s.recordAhead setup

end State

/-- A state in which the worker, what it has left, the service and the order lines waiting
are the same has the same record before it. -/
theorem record_congr (worker : t.worker = s.worker) (memory : t.memory = s.memory)
    (worked : t.trace.worked = s.trace.worked)
    (waiting : s.worker.isOver = false → t.waiting setup = s.waiting setup) :
    t.record setup = s.record setup := by
  have ahead : t.recordAhead setup = s.recordAhead setup := by
    cases settled : s.worker.isOver with
    | true => cases left : s.worker <;> simp_all [State.recordAhead, Worker.isOver]
    | false =>
      simp only [State.recordAhead, State.loginAhead, State.updatesAhead, worker, memory,
        waiting settled]
  rw [State.record, State.record, worked, ahead]

/-- No step changes the record that the worker will have left. -/
theorem record_step (h : Step setup s t) : t.record setup = s.record setup := by
  have step := h
  cases h with
  | ended | interrupted | skipped | recovered | dropped | queued | stopped =>
    refine record_congr rfl rfl ?_ (waiting_step step rfl)
    simp [Entry.isWorkers, Event.speaker]
  | asked here =>
    simp [State.record, State.recordAhead, State.loginAhead, State.updatesAhead, State.waiting,
      Entry.isWorkers, Event.speaker, here]
  | admitted here answer | refused here answer =>
    simp [State.record, State.recordAhead, State.loginAhead, State.updatesAhead, State.waiting,
      Entry.isWorkers, Event.speaker, here, answer]
  | taken here first =>
    simp [State.record, State.recordAhead, State.updatesAhead, State.waiting, updatings, updating,
      Okapi.Service.replies, Entry.isWorkers, Event.speaker, here, first]
  | saved here answer | failed here answer =>
    simp [State.record, State.recordAhead, State.updatesAhead, State.waiting, settling,
      Event.ofReply, Except.toBool, Entry.isWorkers, Event.speaker, here, answer]
  | drained here empty silent =>
    simp [State.record, State.recordAhead, State.updatesAhead, State.waiting, updatings,
      ahead_of_isOver silent, here, empty]

theorem record_execute (schedule : List Side) :
    (execute setup schedule s).record setup = s.record setup :=
  execute_induction (fun t => t.record setup = s.record setup) rfl
    (fun _ _ same step => (record_step step).trans same) schedule

def wholeRecord (setup : Setup Memory) (session : Okapi.Session) (lines : List OrderLine)
    (replies : List (Except Failure Unit)) : List Entry :=
  [.event (.loggingIn setup.credentials.username), .began (.login setup.credentials),
    .settled true, .event .loggedIn] ++ updatings session lines replies

/-- At the end of every schedule the worker has left its whole record. -/
theorem worked_of_isOver {stream : Log.Stream} {session : Okapi.Session} {memory : Memory}
    (admitted : setup.service.login setup.service.fresh setup.credentials = (.ok session, memory))
    (schedule : List Side)
    (ended : (execute setup schedule (State.start setup stream)).isOver = true) :
    let lines := orderLines setup.extent stream.texts
    (execute setup schedule (State.start setup stream)).trace.worked =
      wholeRecord setup session lines (setup.service.replies session memory lines) := by
  intro lines
  have start : (State.start setup stream).record setup =
      wholeRecord setup session lines (setup.service.replies session memory lines) := by
    simp [State.record, State.recordAhead, State.loginAhead, State.updatesAhead, State.waiting,
      State.start, Scan.ahead, Log.Reader.ofStream, Trace.worked, wholeRecord, admitted, lines]
  have whole := (record_execute schedule).trans start
  generalize execute setup schedule (State.start setup stream) = s at ended whole ⊢
  have worked : s.worker.isOver = true := (Bool.and_eq_true_iff.1 ended).2
  have nothing : s.recordAhead setup = [] := by
    cases left : s.worker <;> simp_all [State.recordAhead, Worker.isOver]
  rwa [State.record, nothing, List.append_nil] at whole

def Entry.isSaved : Entry → Bool
  | .event (.saved _) => true
  | _ => false

def Entry.isNotSaved : Entry → Bool
  | .event (.notSaved ..) => true
  | _ => false

structure Tallied (s : State Memory) : Prop where
  succeeded : s.tally.succeeded = s.trace.worked.countP Entry.isSaved
  failed : s.tally.failed = s.trace.worked.countP Entry.isNotSaved

theorem tallied_step (valid : Tallied s) (h : Step setup s t) : Tallied t := by
  obtain ⟨succeeded, failed⟩ := valid
  cases h with
  | ended | interrupted | skipped | recovered | queued | drained => exact ⟨succeeded, failed⟩
  | dropped | stopped | asked | admitted | refused | taken | saved | failed =>
    constructor <;>
      simp [Entry.isWorkers, Event.speaker, Entry.isSaved, Entry.isNotSaved, succeeded, failed]

theorem tallied_execute (setup : Setup Memory) (stream : Log.Stream) (schedule : List Side) :
    Tallied (execute setup schedule (State.start setup stream)) :=
  execute_induction Tallied ⟨rfl, rfl⟩ (fun _ _ => tallied_step) schedule

/-- Each update leaves one entry on what came of it, which goes by its answer. -/
theorem countP_updatings (session : Okapi.Session) {lines : List OrderLine}
    {replies : List (Except Failure Unit)} (whole : replies.length = lines.length) :
    (updatings session lines replies).countP Entry.isSaved = replies.countP Except.isOk ∧
      (updatings session lines replies).countP Entry.isNotSaved =
        replies.countP fun reply => !reply.isOk := by
  induction lines generalizing replies with
  | nil =>
    obtain rfl := List.length_eq_zero_iff.1 whole
    exact ⟨rfl, rfl⟩
  | cons line rest ih =>
    cases replies with
    | nil => cases whole
    | cons reply replies =>
      obtain ⟨saved, failed⟩ := ih (Nat.succ.inj whole)
      have split : updatings session (line :: rest) (reply :: replies) =
          updating session line reply ++ updatings session rest replies := rfl
      rw [split, List.countP_append, List.countP_append, saved, failed, List.countP_cons,
        List.countP_cons]
      cases reply <;>
        simp [updating, settling, Event.ofReply, Entry.isSaved, Entry.isNotSaved, Except.isOk,
          Except.toBool, Nat.add_comm]

/-- At the end of every schedule the answers to the updates have been counted. -/
theorem tally_of_isOver {stream : Log.Stream} {session : Okapi.Session} {memory : Memory}
    (admitted : setup.service.login setup.service.fresh setup.credentials = (.ok session, memory))
    (schedule : List Side)
    (ended : (execute setup schedule (State.start setup stream)).isOver = true) :
    let replies := setup.service.replies session memory (orderLines setup.extent stream.texts)
    let tally := (execute setup schedule (State.start setup stream)).tally
    tally.succeeded = replies.countP Except.isOk ∧
      tally.failed = replies.countP fun reply => !reply.isOk := by
  intro replies tally
  have tallied := tallied_execute setup stream schedule
  obtain ⟨saved, failed⟩ := countP_updatings session
    (setup.service.length_replies session memory (orderLines setup.extent stream.texts))
  have worked := worked_of_isOver admitted schedule ended
  constructor
  · rw [tallied.succeeded, worked, wholeRecord, List.countP_append, saved]
    exact Nat.zero_add _
  · rw [tallied.failed, worked, wholeRecord, List.countP_append, failed]
    exact Nat.zero_add _

end Replay
end OrderReplay

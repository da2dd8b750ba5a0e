import Mathlib.Data.List.Basic
import OrderReplay.Proofs.Replay.Counts

/-! What a replay reports against the lines that report a failure: each of them ends with
exactly one event. Those that are dropped end with a warning of the scan, by their place in
the log and with the payload as it stands there; those that give an order line end with
what the worker says of its update. -/
namespace OrderReplay

namespace FailureLine

/-- What is said of a line that is dropped, if it is. The payload is that of the line, with
its quotes as they are. -/
def complaint? (extent : Payload.Extent) (line : Text) : Option Text :=
  if isFailure line then
    match extent line with
    | none => some "No JSON object found on line".toList
    | some payload =>
      match Json.readObject (Payload.DoubledQuotes.repair payload) with
      | .error _ => some ("Invalid JSON: ".toList ++ payload)
      | .ok fields =>
        if fields.identifier?.isSome then none
        else some ("JSON object has no usable id: ".toList ++ payload)
  else none

theorem message_of_reason? (extent : Payload.Extent) (line : Text) :
    (outcome extent line).reason?.map Unrecovered.message = complaint? extent line := by
  unfold outcome complaint?
  cases isFailure line with
  | false => rfl
  | true =>
    cases extent line with
    | none => rfl
    | some payload =>
      cases read : Json.readObject (Payload.DoubledQuotes.repair payload) with
      | error flaw =>
        simp only [OrderLine.ofPayload, read, if_true]
        rfl
      | ok fields =>
        have usable := OrderLine.ofMembers?_isSome fields
        cases named : OrderLine.ofMembers? fields with
        | none =>
          simp only [OrderLine.ofPayload, read, named, if_true, ← usable]
          rfl
        | some line =>
          simp only [OrderLine.ofPayload, read, named, if_true, ← usable]
          rfl

/-- The event that a line which reports a failure ends with. -/
inductive EndsWith (extent : Payload.Extent) : Text × Nat → Event → Prop where
  | dropped {text place reason} (is : outcome extent text = .dropped reason) :
      EndsWith extent (text, place) (.dropped place reason)
  | settled {text place line reply} (is : outcome extent text = .recovered line) :
      EndsWith extent (text, place) (.ofReply line reply)

/-- The events that the lines which report a failure end with, in the order of the lines,
each with its place. The updates take their answers in turn. -/
def endings (extent : Payload.Extent) :
    List (Except Failure Unit) → List (Text × Nat) → List Event
  | _, [] => []
  | replies, (text, place) :: rest =>
    match outcome extent text, replies with
    | .dropped reason, replies => .dropped place reason :: endings extent replies rest
    | .recovered line, reply :: replies => .ofReply line reply :: endings extent replies rest
    | .recovered _, [] | .skipped, _ => endings extent replies rest

end FailureLine

def Event.isEnding : Event → Bool
  | .dropped .. | .saved _ | .notSaved .. => true
  | _ => false

theorem Event.isEnding_ofReply (line : OrderLine) (reply : Except Failure Unit) :
    (Event.ofReply line reply).isEnding = true ∧ (Event.ofReply line reply).speaker = .worker := by
  cases reply <;> exact ⟨rfl, rfl⟩

theorem Event.speaker_of_isEnding {e : Event} (h : e.isEnding = true) :
    e.speaker = .replay ∨ e.speaker = .worker := by
  cases e <;> simp_all [Event.isEnding, Event.speaker]

namespace FailureLine

variable {extent : Payload.Extent} {replies : List (Except Failure Unit)}
  {numbered : List (Text × Nat)}

theorem isEnding_of_mem_endings : ∀ e ∈ endings extent replies numbered, e.isEnding = true := by
  fun_induction endings extent replies numbered with
  | case1 => simp
  | case2 text place rest reason replies is ih => simpa [Event.isEnding] using ih
  | case3 text place rest line reply replies is ih =>
    simpa [(Event.isEnding_ofReply line reply).1] using ih
  | case4 text place rest line is ih => exact ih
  | case5 replies text place rest is ih => exact ih

theorem endings_replay :
    ((endings extent replies numbered).filter fun e => e.speaker = .replay) =
      numbered.filterMap fun (text, place) =>
        (outcome extent text).reason?.map (Event.dropped place) := by
  fun_induction endings extent replies numbered with
  | case1 => rfl
  | case2 text place rest reason replies is ih =>
    simpa [is, Outcome.reason?, Event.speaker] using ih
  | case3 text place rest line reply replies is ih =>
    simpa [is, Outcome.reason?, (Event.isEnding_ofReply line reply).2] using ih
  | case4 text place rest line is ih => simpa [is, Outcome.reason?] using ih
  | case5 replies text place rest is ih => simpa [is, Outcome.reason?] using ih

theorem endings_worker :
    ((endings extent replies numbered).filter fun e => e.speaker = .worker) =
      ((numbered.filterMap fun (text, _) => (outcome extent text).line?).zip replies).map
        fun (line, reply) => Event.ofReply line reply := by
  fun_induction endings extent replies numbered with
  | case1 => simp
  | case2 text place rest reason replies is ih =>
    simpa [is, Outcome.line?, Event.speaker] using ih
  | case3 text place rest line reply replies is ih =>
    simpa [is, Outcome.line?, (Event.isEnding_ofReply line reply).2] using ih
  | case4 text place rest line is ih => simpa [is, Outcome.line?] using ih
  | case5 replies text place rest is ih => simpa [is, Outcome.line?] using ih

/-- With an answer for every update, each line that reports a failure has its ending. -/
theorem endings_each (whole : replies.length =
      (numbered.filterMap fun (text, _) => (outcome extent text).line?).length) :
    List.Forall₂ (EndsWith extent) (numbered.filter fun line => isFailure line.1)
      (endings extent replies numbered) := by
  fun_induction endings extent replies numbered with
  | case1 => exact .nil
  | case2 text place rest reason replies is ih =>
    rw [List.filter_cons, isFailure_eq extent, is]
    exact .cons (.dropped is) (ih (by simpa [is, Outcome.line?] using whole))
  | case3 text place rest line reply replies is ih =>
    rw [List.filter_cons, isFailure_eq extent, is]
    exact .cons (.settled is) (ih (by simpa [is, Outcome.line?] using whole))
  | case4 text place rest line is ih => simp [is, Outcome.line?] at whole
  | case5 replies text place rest is ih =>
    rw [List.filter_cons, isFailure_eq extent, is]
    exact ih (by simpa [is, Outcome.line?] using whole)

end FailureLine

namespace Replay

open FailureLine (orderLines outcome isFailure droppings complaint? endings EndsWith)

variable {Memory : Type} {setup : Setup Memory} {stream : Log.Stream} {s : State Memory}

def Entry.event? : Entry → Option Event
  | .event e => some e
  | .began _ | .settled _ => none

theorem spoken_worker (trace : Trace) :
    trace.spoken .worker = trace.worked.filterMap Entry.event? := by
  induction trace with
  | nil => rfl
  | cons entry rest ih =>
    rw [Trace.worked_cons, List.filterMap_append, ← ih]
    cases entry with
    | event e =>
      rw [Trace.spoken_event]
      by_cases worker : e.speaker = .worker <;> simp [Entry.isWorkers, Entry.event?, worker]
    | began => simp [Entry.isWorkers, Entry.event?]
    | settled => simp [Entry.isWorkers, Entry.event?]

/-- Events of two speakers are those of the one and those of the other. -/
theorem perm_speakers {events : List Event} (only : ∀ e ∈ events, e.isEnding = true) :
    events.Perm ((events.filter fun e => e.speaker = .replay) ++
      events.filter fun e => e.speaker = .worker) := by
  have others : (events.filter fun e => !decide (e.speaker = .replay)) =
      events.filter fun e => e.speaker = .worker := by
    apply List.filter_congr
    intro e member
    rcases Event.speaker_of_isEnding (only e member) with is | is <;> simp [is]
  rw [← others]
  exact (List.filter_append_perm _ events).symm

theorem endings_updatings (session : Okapi.Session) (lines : List OrderLine)
    (replies : List (Except Failure Unit)) :
    (((updatings session lines replies).filterMap Entry.event?).filter Event.isEnding) =
      (lines.zip replies).map fun (line, reply) => Event.ofReply line reply := by
  unfold updatings
  induction lines.zip replies with
  | nil => rfl
  | cons pair rest ih =>
    obtain ⟨line, reply⟩ := pair
    have one : ((updating session line reply).filterMap Entry.event?).filter Event.isEnding =
        [Event.ofReply line reply] := by
      cases reply <;> rfl
    rw [List.flatMap_cons, List.filterMap_append, List.filter_append, ih, one, List.map_cons,
      List.singleton_append]

structure Audited (setup : Setup Memory) (stream : Log.Stream) (session : Okapi.Session)
    (replies : List (Except Failure Unit)) (trace : Trace) : Prop where
  scan : trace.spoken .replay = droppings setup.extent stream.texts
  complaints : (trace.spoken .replay).map Event.fields =
    (stream.texts.zipIdx 1).filterMap fun (text, place) =>
      (complaint? setup.extent text).map fun message =>
        [("line", Text.ofNat place), ("error", message)]
  worker : trace.worked =
    wholeRecord setup session (orderLines setup.extent stream.texts) replies
  each : List.Forall₂ (EndsWith setup.extent)
    ((stream.texts.zipIdx 1).filter fun line => isFailure line.1)
    (endings setup.extent replies (stream.texts.zipIdx 1))
  once : (trace.events.filter Event.isEnding).Perm
    (endings setup.extent replies (stream.texts.zipIdx 1))
  warnings : (trace.events.filter fun e => e.level = .warn).Perm
    ((endings setup.extent replies (stream.texts.zipIdx 1)).filter fun e => e.level = .warn)

theorem orderLines_numbered (extent : Payload.Extent) (texts : List Text) :
    ((texts.zipIdx 1).filterMap fun (text, _) => (outcome extent text).line?) =
      orderLines extent texts := by
  conv_rhs => rw [← List.zipIdx_map_fst 1 texts, orderLines, List.filterMap_map]
  rfl

theorem isEnding_of_mem_droppings {extent : Payload.Extent} {texts : List Text} :
    ∀ e ∈ droppings extent texts, e.isEnding = true := by
  intro e member
  obtain ⟨⟨text, place⟩, -, given⟩ := List.mem_filterMap.1 member
  obtain ⟨reason, -, rfl⟩ := Option.map_eq_some_iff.1 given
  rfl

theorem audited {session : Okapi.Session} {replies : List (Except Failure Unit)} {trace : Trace}
    (scan : trace.spoken .replay = droppings setup.extent stream.texts)
    (worker : trace.worked =
      wholeRecord setup session (orderLines setup.extent stream.texts) replies)
    (answered : replies.length = (orderLines setup.extent stream.texts).length) :
    Audited setup stream session replies trace := by
  have parts (speaker : Speaker) : ((trace.events.filter Event.isEnding).filter
      fun e => e.speaker = speaker) = (trace.spoken speaker).filter Event.isEnding := by
    rw [Trace.spoken, List.filter_filter, List.filter_filter]
    exact List.filter_congr fun e _ => Bool.and_comm _ _
  have spoken : trace.spoken .worker = [.loggingIn setup.credentials.username, .loggedIn] ++
      (updatings session (orderLines setup.extent stream.texts) replies).filterMap
        Entry.event? := by
    rw [spoken_worker, worker, wholeRecord, List.filterMap_append]
    rfl
  have once : (trace.events.filter Event.isEnding).Perm
      (endings setup.extent replies (stream.texts.zipIdx 1)) := by
    refine (perm_speakers fun e member => (List.mem_filter.1 member).2).trans
      (.trans (.of_eq ?_) (perm_speakers FailureLine.isEnding_of_mem_endings).symm)
    rw [FailureLine.endings_replay, FailureLine.endings_worker, orderLines_numbered, parts, parts,
      scan, spoken, List.filter_append, endings_updatings,
      List.filter_eq_self.2 isEnding_of_mem_droppings]
    rfl
  refine ⟨scan, ?_, worker, ?_, once, ?_⟩
  · rw [scan, droppings, List.map_filterMap]
    refine List.filterMap_congr fun line _ => ?_
    obtain ⟨text, place⟩ := line
    dsimp only
    rw [← FailureLine.message_of_reason?, Option.map_map, Option.map_map]
    rfl
  · refine FailureLine.endings_each ?_
    rw [orderLines_numbered, answered]
  · have warning (events : List Event) : (events.filter fun e => e.level = .warn) =
        (events.filter Event.isEnding).filter fun e => e.level = .warn := by
      rw [List.filter_filter]
      refine List.filter_congr fun e _ => ?_
      cases e <;> rfl
    rw [warning]
    exact once.filter _

theorem audited_of_isOver {session : Okapi.Session} {memory : Memory}
    (whole : stream.fault? = none)
    (admitted : setup.service.login setup.service.fresh setup.credentials = (.ok session, memory))
    (schedule : List Side)
    (ended : (execute setup schedule (State.start setup stream)).isOver = true) :
    (∃ summary, (execute setup schedule (State.start setup stream)).result? =
      some (.ok summary)) ∧
    Audited setup stream session
      (setup.service.replies session memory (orderLines setup.extent stream.texts))
      (execute setup schedule (State.start setup stream)).trace := by
  have sound := failure?_start_eq_none_iff.2 ⟨whole, session, memory, admitted⟩
  have worked := worked_of_isOver admitted schedule ended
  obtain ⟨read, valid⟩ := scanned_execute setup stream schedule
  rcases result?_of_isOver setup ended with ⟨cause, failed, -⟩ | ⟨lines, -, scan, worker, is⟩
  · rw [failure?_execute setup stream schedule, sound] at failed
    cases failed
  · exact ⟨⟨_, is⟩, audited (valid.whole scan worker).2.2 worked
      (setup.service.length_replies _ _ _)⟩

/-- Behind an accepted login and over a whole log, every schedule that has come to its end
has left a trace that accounts for every line which reports a failure. The scan has said
which lines it dropped and why, in their order. The worker has left, for each update in
turn, that it was tried, its call and its answer, and then whether it was saved. Each line
that reports a failure has one ending, and no ending belongs to no line; the warnings are
those endings that are no successes. -/
theorem audit_trail (setup : Setup Memory) (stream : Log.Stream) {session : Okapi.Session}
    {memory : Memory} (whole : stream.fault? = none)
    (admitted : setup.service.login setup.service.fresh setup.credentials =
      (.ok session, memory)) :
    let replies :=
      setup.service.replies session memory (orderLines setup.extent stream.texts)
    (∀ schedule, let s := execute setup schedule (State.start setup stream)
      (∃ more, (execute setup more s).isOver = true) ∧
      (s.isOver = true → Audited setup stream session replies s.trace)) ∧
    ∃ summary trace, (run setup stream).trace = .event (.finished summary) :: trace ∧
      Audited setup stream session replies trace := by
  intro replies
  constructor
  · intro schedule s
    obtain ⟨more, complete⟩ := exists_execute_eq_complete setup s
    refine ⟨⟨more, ?_⟩, fun ended => (audited_of_isOver whole admitted schedule ended).2⟩
    rw [complete]
    exact complete_isOver setup s
  · obtain ⟨schedule, ended, result, trace, -⟩ := run_eq_execute setup stream
    obtain ⟨⟨summary, succeeded⟩, account⟩ := audited_of_isOver whole admitted schedule ended
    rw [succeeded] at result
    rw [← Option.some.inj result] at trace
    exact ⟨summary, _, trace, account⟩

/-- A dropped line behind one that cannot be decoded, and an update that is rejected. -/
theorem audit_trail_two_warnings :
    let status : Http.Status := ⟨422, by decide, by decide⟩
    let rehearsal : Okapi.Rehearsal := ⟨['t'], none, [(['b'], status)]⟩
    let setup : Setup Unit := ⟨Payload.outerBraces, rehearsal.service, ⟨['u'], ['p']⟩⟩
    let line (id : Char) := FailureLine.marker ++ " \x7b\"id\":\"".toList ++ id :: "\"\x7d\n".toList
    let stream : Log.Stream := [.octets [255, 10],
      .octets (Text.Utf8.encode (FailureLine.marker ++ '\n' :: line 'a' ++ line 'b'))]
    stream.fault? = none ∧
      setup.service.login setup.service.fresh setup.credentials = (.ok ⟨['t']⟩, ()) ∧
      ∃ summary, ∃ trace : Trace, (run setup stream).trace = .event (.finished summary) :: trace ∧
        trace.spoken .replay = [.dropped 2 .noObject] ∧
        (trace.events.filter fun e => e.level = .warn).length = 2 := by
  intro status rehearsal setup line stream
  have admitted : setup.service.login setup.service.fresh setup.credentials =
      (.ok ⟨['t']⟩, ()) := rfl
  obtain ⟨summary, trace, whole, account⟩ := (audit_trail setup stream rfl admitted).2
  refine ⟨rfl, admitted, summary, trace, whole, ?_, ?_⟩
  · rw [account.scan]
    decide +kernel
  · rw [account.warnings.length_eq]
    decide +kernel

end Replay
end OrderReplay

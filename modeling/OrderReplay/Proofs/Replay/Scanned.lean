import OrderReplay.Proofs.Replay.Progress

/-! What the scan has made of the lines that it has read: how many it has counted, what it
has said of them, and where it stands behind them. The lines read are a first part of the
log under every schedule; only a worker that was refused can keep the rest from being read. -/
namespace OrderReplay

namespace FailureLine

def Outcome.reason? : Outcome → Option Unrecovered
  | .dropped reason => some reason
  | .skipped | .recovered _ => none

/-- What is said of the lines that are dropped, each by its place in the log. Every line
takes a place, whatever it holds, and the first line has the place one. -/
def droppings (extent : Payload.Extent) (texts : List Text) : List Event :=
  (texts.zipIdx 1).filterMap fun (text, place) =>
    (outcome extent text).reason?.map (Event.dropped place)

theorem droppings_concat (extent : Payload.Extent) (texts : List Text) (text : Text) :
    droppings extent (texts ++ [text]) = droppings extent texts ++
      ((outcome extent text).reason?.map (Event.dropped (texts.length + 1))).toList := by
  rw [droppings, List.zipIdx_append, List.filterMap_append, Nat.add_comm 1]
  cases named : (outcome extent text).reason? <;> simp [droppings, named]

end FailureLine

namespace Replay

open FailureLine (orderLines outcome droppings)

variable {Memory : Type} {setup : Setup Memory} {stream : Log.Stream} {s t : State Memory}
  {read : List Text}

namespace Trace

/-- What one speaker has said, the oldest first. -/
def spoken (speaker : Speaker) (trace : Trace) : List Event :=
  trace.events.filter fun e => e.speaker = speaker

theorem events_event (e : Event) (rest : Trace) :
    events (.event e :: rest) = events rest ++ [e] := by
  simp [events]

theorem events_began (call : Okapi.Call) (rest : Trace) :
    events (.began call :: rest) = events rest := by
  simp [events]

theorem events_settled (accepted : Bool) (rest : Trace) :
    events (.settled accepted :: rest) = events rest := by
  simp [events]

@[simp] theorem spoken_event (speaker : Speaker) (e : Event) (rest : Trace) :
    spoken speaker (.event e :: rest) =
      spoken speaker rest ++ if e.speaker = speaker then [e] else [] := by
  by_cases same : e.speaker = speaker <;> simp [spoken, events_event, same]

@[simp] theorem spoken_began (speaker : Speaker) (call : Okapi.Call) (rest : Trace) :
    spoken speaker (.began call :: rest) = spoken speaker rest := by
  rw [spoken, events_began, spoken]

@[simp] theorem spoken_settled (speaker : Speaker) (accepted : Bool) (rest : Trace) :
    spoken speaker (.settled accepted :: rest) = spoken speaker rest := by
  rw [spoken, events_settled, spoken]

end Trace

/-- Where the scan stands behind the lines it has read, and what it has said on leaving.
Only a scan that was stopped says something: the place of the line whose order line nobody
took, which is the last one read. -/
inductive Stands (extent : Payload.Extent) (stream : Log.Stream) (read : List Text) :
    Scan → List Event → Prop where
  | reading {reader} (count : reader.read = read.length)
      (whole : stream.texts = read ++ reader.rest.texts)
      (fault : reader.rest.fault? = stream.fault?) :
      Stands extent stream read (.reading reader) []
  | sending {reader before text line} (last : read = before ++ [text])
      (is : outcome extent text = .recovered line) (count : reader.read = read.length)
      (whole : stream.texts = read ++ reader.rest.texts)
      (fault : reader.rest.fault? = stream.fault?) :
      Stands extent stream read (.sending reader read.length line) []
  | ended (whole : stream.texts = read) (fault : stream.fault? = none) :
      Stands extent stream read (.done read.length) []
  | broken {cause} (whole : stream.texts = read) (fault : stream.fault? = some cause) :
      Stands extent stream read (.broken cause) []
  | stopped {before text line} (last : read = before ++ [text])
      (is : outcome extent text = .recovered line) (first : read <+: stream.texts) :
      Stands extent stream read (.done read.length) [.scanStopped read.length]

structure Scanned (setup : Setup Memory) (stream : Log.Stream) (read : List Text)
    (s : State Memory) : Prop where
  parsed : s.parsed = (orderLines setup.extent read).length
  dropped : s.dropped = (droppings setup.extent read).length
  said : ∃ farewell, Stands setup.extent stream read s.scan farewell ∧
    s.trace.spoken .replay = droppings setup.extent read ++ farewell ∧
    (farewell ≠ [] → ∃ cause, s.worker = .refused cause)

theorem Stands.first {scan : Scan} {farewell : List Event}
    (h : Stands setup.extent stream read scan farewell) : read <+: stream.texts := by
  cases h with
  | reading _ whole | sending _ _ _ whole => rw [whole]; exact List.prefix_append _ _
  | ended whole | broken whole => exact whole ▸ List.prefix_refl _
  | stopped _ _ first => exact first

theorem scanned_start (setup : Setup Memory) (stream : Log.Stream) :
    Scanned setup stream [] (State.start setup stream) where
  parsed := rfl
  dropped := rfl
  said := ⟨[], .reading rfl rfl rfl, rfl, fun some => absurd rfl some⟩

theorem Scanned.same (valid : Scanned setup stream read s) (scan : t.scan = s.scan)
    (parsed : t.parsed = s.parsed) (dropped : t.dropped = s.dropped)
    (spoken : t.trace.spoken .replay = s.trace.spoken .replay)
    (left : ∀ cause, s.worker = .refused cause → t.worker = .refused cause) :
    Scanned setup stream read t := by
  obtain ⟨farewell, stands, said, refused⟩ := valid.said
  refine ⟨parsed ▸ valid.parsed, dropped ▸ valid.dropped, farewell, scan ▸ stands,
    spoken.trans said, fun some => ?_⟩
  obtain ⟨cause, worker⟩ := refused some
  exact ⟨cause, left cause worker⟩

theorem Scanned.more {reader after : Log.Reader} {text : Text} (valid : Scanned setup stream read s)
    (here : s.scan = .reading reader) (yields : reader.Yields text after)
    (parsed : t.parsed = s.parsed + (outcome setup.extent text).line?.toList.length)
    (dropped : t.dropped = s.dropped + (outcome setup.extent text).reason?.toList.length)
    (spoken : t.trace.spoken .replay = s.trace.spoken .replay ++
      ((outcome setup.extent text).reason?.map (Event.dropped after.read)).toList)
    (scan : t.scan = .reading after ∨ ∃ line, outcome setup.extent text = .recovered line ∧
      t.scan = .sending after after.read line) :
    Scanned setup stream (read ++ [text]) t := by
  obtain ⟨farewell, stands, said, -⟩ := valid.said
  rw [here] at stands
  cases stands with
  | reading count whole fault =>
    have place : after.read = (read ++ [text]).length := by
      rw [yields.read, count, List.length_append, List.length_singleton]
    have rest : stream.texts = read ++ [text] ++ after.rest.texts := by
      rw [whole, yields.texts, List.append_assoc, List.singleton_append]
    have fault : after.rest.fault? = stream.fault? := yields.fault.trans fault
    have given : (orderLines setup.extent [text]).length =
        (outcome setup.extent text).line?.toList.length := by
      cases named : (outcome setup.extent text).line? <;> simp [orderLines, named]
    refine ⟨?_, ?_, [], ?_, ?_, fun some => absurd rfl some⟩
    · rw [parsed, valid.parsed, orderLines_append, List.length_append, given]
    · rw [dropped, valid.dropped, FailureLine.droppings_concat, List.length_append]
      cases (outcome setup.extent text).reason? <;> rfl
    · rcases scan with next | ⟨line, is, next⟩
      · rw [next]
        exact .reading place rest fault
      · rw [next, place]
        exact .sending rfl is place rest fault
    · rw [spoken, said, FailureLine.droppings_concat, place, List.length_append,
        List.length_singleton, List.append_nil, List.append_nil]

/-- What the scan reads in one step: at most one line. It reads only while nothing waits to
be sent, and nothing waits afterwards only if the line gives no order line. -/
def Reads (setup : Setup Memory) (s t : State Memory) (more : List Text) : Prop :=
  more = [] ∨ ∃ reader text, s.scan = .reading reader ∧ more = [text] ∧
    ∀ after, t.scan = .reading after → orderLines setup.extent more = []

theorem Scanned.still (valid : Scanned setup stream read t) :
    ∃ more, Scanned setup stream (read ++ more) t ∧ Reads setup s t more :=
  ⟨[], by rwa [List.append_nil], .inl rfl⟩

theorem scanned_step (attended : s.Attended) (valid : Scanned setup stream read s)
    (h : Step setup s t) :
    ∃ more, Scanned setup stream (read ++ more) t ∧ Reads setup s t more := by
  obtain ⟨farewell, stands, said, -⟩ := valid.said
  cases h with
  | ended here last whole =>
    rw [here] at stands
    cases stands with
    | reading count texts fault =>
      rw [last, List.append_nil] at texts
      have stands : Stands setup.extent stream read (.done read.length) [] :=
        .ended texts (fault.symm.trans whole)
      rw [count]
      exact Scanned.still ⟨valid.parsed, valid.dropped, [], stands, said,
        fun some => absurd rfl some⟩
  | interrupted here last broken =>
    rw [here] at stands
    cases stands with
    | reading count texts fault =>
      rw [last, List.append_nil] at texts
      have stands : Stands setup.extent stream read (.broken _) [] :=
        .broken texts (fault.symm.trans broken)
      exact Scanned.still ⟨valid.parsed, valid.dropped, [], stands, said,
        fun some => absurd rfl some⟩
  | skipped here yields is =>
    refine ⟨_, valid.more here yields ?_ ?_ ?_ (.inl rfl), .inr ⟨_, _, here, rfl, ?_⟩⟩
    · simp [is, FailureLine.Outcome.line?]
    · simp [is, FailureLine.Outcome.reason?]
    · simp [is, FailureLine.Outcome.reason?]
    · exact fun _ _ => orderLines_skipped [] is
  | recovered here yields is =>
    refine ⟨_, valid.more here yields ?_ ?_ ?_ (.inr ⟨_, is, rfl⟩), .inr ⟨_, _, here, rfl, ?_⟩⟩
    · simp [is, FailureLine.Outcome.line?]
    · simp [is, FailureLine.Outcome.reason?]
    · simp [is, FailureLine.Outcome.reason?]
    · intro after next
      cases next
  | dropped here yields is =>
    refine ⟨_, valid.more here yields ?_ ?_ ?_ (.inl rfl), .inr ⟨_, _, here, rfl, ?_⟩⟩
    · simp [is, FailureLine.Outcome.line?]
    · simp [is, FailureLine.Outcome.reason?]
    · simp [is, FailureLine.Outcome.reason?, Event.speaker]
    · exact fun _ _ => orderLines_dropped [] is
  | queued here =>
    rw [here] at stands
    cases stands with
    | sending _ _ count texts fault =>
      exact Scanned.still ⟨valid.parsed, valid.dropped, [], .reading count texts fault, said,
        fun some => absurd rfl some⟩
  | stopped here deserted =>
    obtain ⟨cause, left⟩ := refused_of_deserted attended here deserted
    rw [here] at stands
    have first := stands.first
    cases stands with
    | sending last is count =>
      have spoken : Trace.spoken .replay (.event (.scanStopped read.length) :: s.trace) =
          droppings setup.extent read ++ [.scanStopped read.length] := by
        rw [Trace.spoken_event, said, List.append_nil]
        rfl
      rw [count]
      exact Scanned.still ⟨valid.parsed, valid.dropped, _, .stopped last is first, spoken,
        fun _ => ⟨cause, left⟩⟩
  | asked here | admitted here | refused here | taken here | saved here | failed here
  | drained here =>
    refine Scanned.still (valid.same rfl rfl rfl ?_ ?_)
    · simp [Event.speaker]
    · intro cause worker
      rw [here] at worker
      cases worker

theorem scanned_execute (setup : Setup Memory) (stream : Log.Stream) (schedule : List Side) :
    ∃ read, Scanned setup stream read (execute setup schedule (State.start setup stream)) := by
  have start : (State.start setup stream).Attended := fun left => by cases left
  refine (execute_induction (fun t => t.Attended ∧ ∃ read, Scanned setup stream read t)
    ⟨start, [], scanned_start setup stream⟩ ?_ schedule).2
  rintro s t ⟨attended, read, valid⟩ step
  obtain ⟨more, next, -⟩ := scanned_step attended valid step
  exact ⟨attended_step attended step, read ++ more, next⟩

end Replay
end OrderReplay

import Mathlib.Data.List.Induction
import OrderReplay.Proofs.Replay.Interrupted
import OrderReplay.Proofs.Replay.Record
import OrderReplay.Proofs.Replay.Scanned

/-! The summary of a replay against its log and its calls. Its counts are kept by the reader,
by the scan and by the worker, each apart; what ties them together is that all lines of the
log have been read when there is a summary, and every order line has been taken. -/
namespace OrderReplay

namespace FailureLine

theorem length_droppings (extent : Payload.Extent) (texts : List Text) :
    (droppings extent texts).length =
      texts.countP fun text => (outcome extent text).reason?.isSome := by
  induction texts using List.reverseRecOn with
  | nil => rfl
  | append_singleton texts text ih =>
    rw [droppings_concat, List.length_append, ih, List.countP_append]
    cases named : (outcome extent text).reason? <;> simp [named]

/-- A line reports a failure exactly if it gives an order line or a reason for giving none. -/
theorem isFailure_eq (extent : Payload.Extent) (text : Text) :
    isFailure text =
      ((outcome extent text).line?.isSome || (outcome extent text).reason?.isSome) := by
  have reports := outcome_eq_skipped_iff extent text
  cases is : outcome extent text with
  | skipped => exact reports.1 is
  | recovered | dropped => simpa [is, Outcome.line?, Outcome.reason?] using reports

theorem parsed_add_dropped (extent : Payload.Extent) (texts : List Text) :
    (orderLines extent texts).length +
      texts.countP (fun text => (outcome extent text).reason?.isSome) = texts.countP isFailure := by
  induction texts with
  | nil => rfl
  | cons text rest ih =>
    rw [List.countP_cons, List.countP_cons, isFailure_eq extent, ← ih]
    cases is : outcome extent text with
    | skipped =>
      rw [Replay.orderLines_skipped rest is]
      simp [Outcome.line?, Outcome.reason?]
    | recovered line =>
      rw [Replay.orderLines_recovered rest is]
      simp [Outcome.line?, Outcome.reason?]
      omega
    | dropped reason =>
      rw [Replay.orderLines_dropped rest is]
      simp [Outcome.line?, Outcome.reason?]
      omega

end FailureLine

def Okapi.Call.isUpdate : Okapi.Call → Bool
  | .login _ => false
  | .update _ _ => true

namespace Replay

open FailureLine (orderLines outcome isFailure droppings)

variable {Memory : Type} {setup : Setup Memory} {stream : Log.Stream} {s : State Memory}

/-- The counts of a summary, told by the log, by the calls and by their answers. -/
structure Summary.AddsUp (setup : Setup Memory) (stream : Log.Stream) (calls : List Okapi.Call)
    (summary : Summary) : Prop where
  whole : stream.fault? = none
  lines : summary.lines = stream.texts.length
  failures : summary.parsed + summary.dropped = stream.texts.countP isFailure
  dropped : summary.dropped =
    stream.texts.countP fun text => (outcome setup.extent text).reason?.isSome
  settled : summary.parsed = summary.tally.succeeded + summary.tally.failed
  updates : summary.parsed = calls.countP Okapi.Call.isUpdate
  failed : ∃ session memory,
    setup.service.login setup.service.fresh setup.credentials = (.ok session, memory) ∧
    calls.reverse = .login setup.credentials ::
      (orderLines setup.extent stream.texts).map (.update session) ∧
    summary.tally.failed = (setup.service.replies session memory
      (orderLines setup.extent stream.texts)).countP fun reply => !reply.isOk

theorem Scanned.whole {read : List Text} {lines : Nat} (valid : Scanned setup stream read s)
    (scan : s.scan = .done lines) (worker : s.worker = .done) :
    stream.texts = read ∧ lines = read.length ∧
      s.trace.spoken .replay = droppings setup.extent stream.texts := by
  obtain ⟨farewell, stands, said, refused⟩ := valid.said
  rw [scan] at stands
  cases stands with
  | ended whole =>
    rw [List.append_nil, ← whole] at said
    exact ⟨whole, rfl, said⟩
  | stopped =>
    obtain ⟨cause, left⟩ := refused (List.cons_ne_nil _ _)
    rw [worker] at left
    cases left

theorem addsUp_of_result? {schedule : List Side} {summary : Summary}
    (finished :
      (execute setup schedule (State.start setup stream)).result? = some (.ok summary)) :
    summary.AddsUp setup stream
      (execute setup schedule (State.start setup stream)).trace.calls := by
  have ended := isOver_of_result? finished
  have sound := failure?_execute setup stream schedule
  rcases result?_of_isOver setup ended with ⟨cause, _, failed⟩ | ⟨lines, none, scan, worker, is⟩
  · rw [finished] at failed
    cases failed
  · rw [none] at sound
    obtain ⟨whole, session, memory, login⟩ := failure?_start_eq_none_iff.1 sound.symm
    obtain ⟨made, -, -⟩ := calls_of_isOver setup stream schedule ended
    obtain ⟨succeeded, failed⟩ := tally_of_isOver login schedule ended
    obtain ⟨read, valid⟩ := scanned_execute setup stream schedule
    obtain ⟨texts, count, -⟩ := valid.whole scan worker
    rw [planned_start, login] at made
    generalize execute setup schedule (State.start setup stream) = s at *
    obtain rfl : (⟨lines, s.parsed, s.dropped, s.tally⟩ : Summary) = summary :=
      Except.ok.inj (Option.some.inj (is.symm.trans finished))
    have parsed : s.parsed = (orderLines setup.extent stream.texts).length := by
      rw [texts, valid.parsed]
    have dropped : s.dropped =
        stream.texts.countP fun text => (outcome setup.extent text).reason?.isSome := by
      rw [texts, valid.dropped, FailureLine.length_droppings]
    refine ⟨whole, ?_, ?_, dropped, ?_, ?_, session, memory, login, made, failed⟩
    · rw [count, texts]
    · simp only [parsed, dropped]
      exact FailureLine.parsed_add_dropped setup.extent stream.texts
    · have both := List.length_eq_countP_add_countP Except.isOk
        (l := setup.service.replies session memory (orderLines setup.extent stream.texts))
      rw [setup.service.length_replies] at both
      simpa [parsed, succeeded, failed] using both
    · rw [← List.countP_reverse, made, parsed]
      simp [List.countP_map, Function.comp_def, Okapi.Call.isUpdate]

/-- Whenever a replay has a summary, under whichever schedule, its counts add up: the lines
are those of the log; order lines parsed and lines dropped make up the lines that report a
failure; there was one update for each order line parsed, and as many were answered with an
error as are counted to have failed. -/
theorem summary_adds_up (setup : Setup Memory) (stream : Log.Stream) :
    (∀ schedule summary, let s := execute setup schedule (State.start setup stream)
      s.result? = some (.ok summary) → summary.AddsUp setup stream s.trace.calls) ∧
    ∀ summary, (run setup stream).result = .ok summary →
      summary.AddsUp setup stream (run setup stream).trace.calls := by
  constructor
  · intro schedule summary s finished
    exact addsUp_of_result? finished
  · intro summary finished
    obtain ⟨schedule, -, result, trace, -⟩ := run_eq_execute setup stream
    rw [finished] at result
    rw [trace, calls_closed]
    exact addsUp_of_result? result

/-- Noise, a payload that breaks off, an empty line, and an update that is rejected. -/
theorem summary_adds_up_mixed_lines :
    let rehearsal : Okapi.Rehearsal := ⟨['t'], none, [(['b'], ⟨422, by decide, by decide⟩)]⟩
    let setup : Setup Unit := ⟨Payload.outerBraces, rehearsal.service, ⟨['u'], ['p']⟩⟩
    let line (id : Char) := FailureLine.marker ++ " \x7b\"id\":\"".toList ++ id :: "\"\x7d\n".toList
    let broken := FailureLine.marker ++ " \x7b\"id\"\n".toList
    let log := ['I', '\n'] ++ line 'a' ++ broken ++ line 'b' ++ ['\n'] ++ line 'c'
    let stream : Log.Stream := .ofOctets (Text.Utf8.encode log)
    let schedule := List.replicate 10 Side.scan ++ List.replicate 9 Side.worker
    let s := execute setup schedule (State.start setup stream)
    let summary : Summary := ⟨6, 3, 1, ⟨2, 1⟩⟩
    s.result? = some (.ok summary) ∧ summary.AddsUp setup stream s.trace.calls := by
  intro rehearsal setup line broken log stream schedule s summary
  have finished : s.result? = some (.ok summary) := by decide +kernel
  exact ⟨finished, (summary_adds_up setup stream).1 schedule summary finished⟩

end Replay
end OrderReplay

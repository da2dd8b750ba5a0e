import OrderReplay.Proofs.Replay.Result

/-! A replay of a log that breaks off. What the log gives is what its lines give that were
complete before the break, and all of it is sent before the break is reported. A refused
login is reported instead, whichever of the two was met first. -/
namespace OrderReplay.Replay

open FailureLine (orderLines)

variable {Memory : Type} {setup : Setup Memory} {stream : Log.Stream} {s : State Memory}

theorem isOver_of_result? {result : Except Failure Summary} (h : s.result? = some result) :
    s.isOver = true := by
  cases worker : s.worker with
  | done => cases scan : s.scan <;>
      simp_all [State.result?, State.tally?, State.isOver, Worker.isOver, Scan.isOver]
  | refused => cases scan : s.scan <;>
      simp_all [State.result?, State.tally?, State.isOver, Worker.isOver, Scan.isOver]
  | idle | loggingIn | ready | saving => simp [State.result?, State.tally?, worker] at h

theorem failure?_start {cause : Text} (fault : stream.fault? = some cause) :
    (State.start setup stream).failure? setup =
      match (setup.service.login setup.service.fresh setup.credentials).1 with
      | .ok _ => some (.io cause)
      | .error refusal => some refusal := by
  rw [failure?_start_eq, fault]
  rfl

/-- A log that breaks off, under every schedule. The calls begun are always a first part of
the login and, if that is accepted, one update for each line that was complete before the
break and gives an order line, in the order of the lines. Every schedule can be continued
to the end; there is a result only when all these calls have been made and have settled,
and it is the refusal of the login or else the read error. -/
theorem calls_before_break (setup : Setup Memory) (portions : List (List UInt8)) (cause : Text)
    (later : Log.Stream) :
    let stream := Log.Stream.broken portions cause later
    let answer := (setup.service.login setup.service.fresh setup.credentials).1
    let calls : List Okapi.Call := .login setup.credentials ::
      match answer with
      | .ok session =>
        (orderLines setup.extent (Log.terminated portions.flatten)).map (.update session)
      | .error _ => []
    let failure : Failure := match answer with
      | .ok _ => .io cause
      | .error refusal => refusal
    (∀ schedule, let s := execute setup schedule (State.start setup stream)
      s.trace.calls.reverse <+: calls ∧
      (∃ more, (execute setup more s).isOver = true) ∧
      ∀ result, s.result? = some result →
        result = .error failure ∧ s.trace.calls.reverse = calls ∧ s.trace.inFlight = 0) ∧
    (run setup stream).result = .error failure ∧
      (run setup stream).trace.calls.reverse = calls := by
  intro stream answer calls failure
  have start : (State.start setup stream).planned setup = calls := by
    have planned := planned_start setup stream
    rw [Log.Stream.texts_broken] at planned
    exact planned
  have fails : (State.start setup stream).failure? setup = some failure := by
    rw [failure?_start (Log.Stream.fault?_broken portions cause later)]
    simp only [failure, answer]
    cases (setup.service.login setup.service.fresh setup.credentials).1 <;> rfl
  have ending (schedule : List Side) :
      let s := execute setup schedule (State.start setup stream)
      ∀ result, s.result? = some result →
        result = .error failure ∧ s.trace.calls.reverse = calls ∧ s.trace.inFlight = 0 := by
    intro s result found
    have ended := isOver_of_result? found
    obtain ⟨made, settled, _⟩ := calls_of_isOver setup stream schedule ended
    have same : s.failure? setup = some failure :=
      (failure?_execute setup stream schedule).trans fails
    refine ⟨?_, made.trans start, settled⟩
    rcases result?_of_isOver setup ended with ⟨other, failed, is⟩ | ⟨_, sound, _⟩
    · obtain rfl : other = failure := Option.some.inj (failed.symm.trans same)
      exact Option.some.inj (found.symm.trans is)
    · rw [same] at sound
      cases sound
  constructor
  · intro schedule s
    have planned : s.planned setup = calls := (planned_execute schedule).1.trans start
    obtain ⟨more, complete⟩ := exists_execute_eq_complete setup s
    refine ⟨?_, ⟨more, ?_⟩, ending schedule⟩
    · rw [← planned]
      exact List.prefix_append _ _
    · rw [complete]
      exact complete_isOver setup s
  · obtain ⟨schedule, _, result, trace, _⟩ := run_eq_execute setup stream
    obtain ⟨failed, made, _⟩ := ending schedule _ result
    exact ⟨failed, by rw [trace, calls_closed, made]⟩

end OrderReplay.Replay

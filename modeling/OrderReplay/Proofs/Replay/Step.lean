import OrderReplay.Proofs.Log.Lines
import OrderReplay.Replay.Run

/-! What one step of a replay can do, said once. Every fact about one run is a fact about
these steps; the step functions are opened again only where two runs are compared. -/
namespace OrderReplay.Log

/-- Reading on hands out one line and leaves the lines behind it. -/
structure Reader.Yields (r : Reader) (text : Text) (after : Reader) : Prop where
  texts : r.rest.texts = text :: after.rest.texts
  fault : after.rest.fault? = r.rest.fault?
  read : after.read = r.read + 1

end OrderReplay.Log

namespace OrderReplay.Replay

open FailureLine (outcome)

variable {Memory : Type} {setup : Setup Memory} {s t : State Memory}

/-- The steps of both sides. Seven are the scan's, the others the worker's. -/
inductive Step (setup : Setup Memory) (s : State Memory) : State Memory → Prop where
  | ended {reader} (here : s.scan = .reading reader) (last : reader.rest.texts = [])
      (whole : reader.rest.fault? = none) :
      Step setup s { s with scan := .done reader.read }
  | interrupted {reader cause} (here : s.scan = .reading reader) (last : reader.rest.texts = [])
      (fault : reader.rest.fault? = some cause) :
      Step setup s { s with scan := .broken cause }
  | skipped {reader text after} (here : s.scan = .reading reader)
      (yields : reader.Yields text after) (is : outcome setup.extent text = .skipped) :
      Step setup s { s with scan := .reading after }
  | recovered {reader text after line} (here : s.scan = .reading reader)
      (yields : reader.Yields text after) (is : outcome setup.extent text = .recovered line) :
      Step setup s { s with scan := .sending after after.read line, parsed := s.parsed + 1 }
  | dropped {reader text after reason} (here : s.scan = .reading reader)
      (yields : reader.Yields text after) (is : outcome setup.extent text = .dropped reason) :
      Step setup s { s with
        scan := .reading after
        dropped := s.dropped + 1
        trace := .event (.dropped after.read reason) :: s.trace }
  | queued {reader number line} (here : s.scan = .sending reader number line)
      (listened : s.worker.isOver = false) (room : s.queue.length < capacity) :
      Step setup s { s with scan := .reading reader, queue := s.queue ++ [line] }
  | stopped {reader number line} (here : s.scan = .sending reader number line)
      (deserted : s.worker.isOver = true) :
      Step setup s { s with
        scan := .done reader.read
        trace := .event (.scanStopped number) :: s.trace }
  | asked (here : s.worker = .idle) :
      Step setup s { s with
        worker := .loggingIn
        trace := .began (.login setup.credentials) ::
          .event (.loggingIn setup.credentials.username) :: s.trace }
  | admitted {session memory} (here : s.worker = .loggingIn)
      (answer : setup.service.login s.memory setup.credentials = (.ok session, memory)) :
      Step setup s { s with
        memory
        worker := .ready session
        trace := .event .loggedIn :: .settled true :: s.trace }
  | refused {cause memory} (here : s.worker = .loggingIn)
      (answer : setup.service.login s.memory setup.credentials = (.error cause, memory)) :
      Step setup s { s with
        memory
        worker := .refused cause
        queue := []
        trace := .event (.loginFailed cause) :: .settled false :: s.trace }
  | taken {session line rest} (here : s.worker = .ready session) (first : s.queue = line :: rest) :
      Step setup s { s with
        worker := .saving session line
        queue := rest
        trace := .began (.update session line) :: .event (.attempting line.id) :: s.trace }
  | saved {session line memory} (here : s.worker = .saving session line)
      (answer : setup.service.update s.memory session line = (.ok (), memory)) :
      Step setup s { s with
        memory
        worker := .ready session
        tally := { s.tally with succeeded := s.tally.succeeded + 1 }
        trace := .event (.saved line.id) :: .settled true :: s.trace }
  | failed {session line cause memory} (here : s.worker = .saving session line)
      (answer : setup.service.update s.memory session line = (.error cause, memory)) :
      Step setup s { s with
        memory
        worker := .ready session
        tally := { s.tally with failed := s.tally.failed + 1 }
        trace := .event (.notSaved line.id cause) :: .settled false :: s.trace }
  | drained {session} (here : s.worker = .ready session) (empty : s.queue = [])
      (silent : s.scan.isOver = true) :
      Step setup s { s with worker := .done }

theorem step_of_readLine {reader : Log.Reader} (here : s.scan = .reading reader) :
    Step setup s (readLine setup s reader) := by
  cases texts : reader.rest.texts with
  | nil =>
    have found := Log.Reader.next_stop texts
    cases fault : reader.rest.fault? with
    | none =>
      simp only [fault] at found
      simpa only [readLine, found] using Step.ended here texts fault
    | some cause =>
      simp only [fault] at found
      simpa only [readLine, found] using Step.interrupted here texts fault
  | cons text more =>
    obtain ⟨rest, found, following, fault, -⟩ := Log.Reader.next_line texts
    have yields : reader.Yields text ⟨rest, reader.read + 1⟩ :=
      ⟨by rw [texts, following], fault, rfl⟩
    simp only [readLine, found]
    split
    next is => exact .skipped here yields is
    next line is => exact .recovered here yields is
    next reason is => exact .dropped here yields is

theorem step_of_scanStep? (h : scanStep? setup s = some t) : Step setup s t := by
  unfold scanStep? at h
  split at h
  next reader here =>
    obtain rfl := Option.some.inj h
    exact step_of_readLine here
  next reader number line here =>
    split at h
    next deserted =>
      obtain rfl := Option.some.inj h
      exact .stopped here deserted
    next listened =>
      split at h
      next room =>
        obtain rfl := Option.some.inj h
        exact .queued here (by simpa using listened) room
      next => cases h
  next => cases h
  next => cases h

theorem step_of_workerStep? (h : workerStep? setup s = some t) : Step setup s t := by
  unfold workerStep? at h
  split at h
  next here =>
    obtain rfl := Option.some.inj h
    exact .asked here
  next here =>
    rcases eq : setup.service.login s.memory setup.credentials with ⟨answer, memory⟩
    rw [eq] at h
    obtain rfl := Option.some.inj h
    cases answer with
    | ok session => exact .admitted here eq
    | error cause => exact .refused here eq
  next session here =>
    split at h
    next line rest first =>
      obtain rfl := Option.some.inj h
      exact .taken here first
    next empty =>
      split at h
      next silent =>
        obtain rfl := Option.some.inj h
        exact .drained here empty silent
      next => cases h
  next session line here =>
    rcases eq : setup.service.update s.memory session line with ⟨answer, memory⟩
    rw [eq] at h
    obtain rfl := Option.some.inj h
    cases answer with
    | ok => exact .saved here eq
    | error cause => exact .failed here eq
  next => cases h
  next => cases h

/-- A side makes one of the steps, or it cannot move. -/
theorem advance_step (setup : Setup Memory) (side : Side) (s : State Memory) :
    advance setup side s = s ∨ Step setup s (advance setup side s) := by
  cases side with
  | scan =>
    cases h : scanStep? setup s with
    | none => exact .inl (by simp [advance, h])
    | some t => exact .inr (by simpa [advance, h] using step_of_scanStep? h)
  | worker =>
    cases h : workerStep? setup s with
    | none => exact .inl (by simp [advance, h])
    | some t => exact .inr (by simpa [advance, h] using step_of_workerStep? h)

/-- What every step preserves, every schedule preserves. -/
theorem execute_induction (holds : State Memory → Prop) (start : holds s)
    (step : ∀ s t, holds s → Step setup s t → holds t) (schedule : List Side) :
    holds (execute setup schedule s) := by
  induction schedule generalizing s with
  | nil => exact start
  | cons side schedule ih =>
    apply ih
    rcases advance_step setup side s with same | moved
    · rwa [same]
    · exact step s _ start moved

/-- Every run can be brought to its end, and the run that moves the scan first is one of
those that do. -/
theorem exists_execute_eq_complete (setup : Setup Memory) (s : State Memory) :
    ∃ schedule, execute setup schedule s = complete setup s := by
  fun_induction complete setup s with
  | case1 s t h ih =>
    obtain ⟨schedule, eq⟩ := ih
    exact ⟨.scan :: schedule, by simpa [execute, advance, h] using eq⟩
  | case2 s _ t h ih =>
    obtain ⟨schedule, eq⟩ := ih
    exact ⟨.worker :: schedule, by simpa [execute, advance, h] using eq⟩
  | case3 s => exact ⟨[], rfl⟩

end OrderReplay.Replay

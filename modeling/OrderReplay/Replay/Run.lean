import OrderReplay.Replay.State

/-! A run to its end. The scan goes first and the worker moves when the scan cannot, so
a login is asked for when the log has been read or the queue is full. -/
namespace OrderReplay.Replay

variable {Memory : Type}

/-- Steps that a state can still take, counted generously. -/
def Scan.work : Scan → Nat
  | .reading reader => 8 * reader.rest.size + 1
  | .sending reader _ _ => 8 * reader.rest.size + 7
  | .done _ | .broken _ => 0

def Worker.work : Worker → Nat
  | .idle => 6
  | .loggingIn => 5
  | .ready _ => 1
  | .saving _ _ => 3
  | .done | .refused _ => 0

def State.work (s : State Memory) : Nat := s.scan.work + 4 * s.queue.length + s.worker.work

theorem readLine_work (setup : Setup Memory) (s : State Memory) (reader : Log.Reader) :
    (readLine setup s reader).work < (State.work { s with scan := .reading reader }) := by
  have smaller := reader.next_size
  unfold readLine
  split
  next => simp [State.work, Scan.work]
  next => simp [State.work, Scan.work]
  next line after h =>
    have : after.rest.size < reader.rest.size := by
      have := smaller (by rw [h]; simp)
      rwa [h] at this
    split <;> simp [State.work, Scan.work] <;> omega

theorem scanStep?_work {setup : Setup Memory} {s t : State Memory}
    (h : scanStep? setup s = some t) : t.work < s.work := by
  unfold scanStep? at h
  split at h
  next reader eq =>
    cases h
    have := readLine_work setup s reader
    rwa [show ({ s with scan := Scan.reading reader } : State Memory) = s by rw [← eq]] at this
  next reader number line eq =>
    split at h
    next => cases h; simp [State.work, Scan.work, eq]
    next =>
      split at h
      next => cases h; simp [State.work, Scan.work, eq]; omega
      next => cases h
  next => cases h
  next => cases h

theorem workerStep?_work {setup : Setup Memory} {s t : State Memory}
    (h : workerStep? setup s = some t) : t.work < s.work := by
  unfold workerStep? at h
  split at h
  next eq => cases h; simp [State.work, Worker.work, eq]
  next eq =>
    cases h
    unfold settleLogin
    split <;> simp [State.work, Worker.work, eq]
    omega
  next session eq =>
    split at h
    next line rest q => cases h; simp [State.work, Worker.work, eq, q]; omega
    next q =>
      split at h
      next => cases h; simp [State.work, Worker.work, eq, q]
      next => cases h
  next session line eq =>
    cases h
    unfold settleUpdate
    split <;> simp [State.work, Worker.work, eq]
  next => cases h
  next => cases h

def complete (setup : Setup Memory) (s : State Memory) : State Memory :=
  match _h : scanStep? setup s with
  | some t => complete setup t
  | none =>
    match _h : workerStep? setup s with
    | some t => complete setup t
    | none => s
termination_by s.work
decreasing_by
  · exact scanStep?_work _h
  · exact workerStep?_work _h

/-- A state in which neither side can move is over: the scan waits only for a queue that
is full, and the worker only for one that is empty. -/
theorem isOver_of_stuck {setup : Setup Memory} {s : State Memory} (hs : scanStep? setup s = none)
    (hw : workerStep? setup s = none) : s.isOver = true := by
  have worker : s.worker.isOver = true ∨ (s.queue = [] ∧ s.scan.isOver = false) := by
    unfold workerStep? at hw
    split at hw
    next => cases hw
    next => cases hw
    next session eq =>
      split at hw
      next => cases hw
      next empty =>
        split at hw
        next => cases hw
        next going => exact .inr ⟨empty, by simpa using going⟩
    next => cases hw
    next eq => simp [eq, Worker.isOver]
    next eq => simp [eq, Worker.isOver]
  unfold scanStep? at hs
  split at hs
  next => cases hs
  next eq =>
    split at hs
    next => cases hs
    next going =>
      split at hs
      next => cases hs
      next full =>
        rcases worker with ended | ⟨empty, _⟩
        · exact absurd ended going
        · exact absurd (by simp [empty, capacity]) full
  next eq => rcases worker with ended | ⟨_, going⟩ <;> simp_all [State.isOver, Scan.isOver]
  next eq => rcases worker with ended | ⟨_, going⟩ <;> simp_all [State.isOver, Scan.isOver]

theorem complete_isOver (setup : Setup Memory) (s : State Memory) :
    (complete setup s).isOver = true := by
  fun_induction complete setup s with
  | case1 s t _ ih => exact ih
  | case2 s _ t _ ih => exact ih
  | case3 s hs hw => exact isOver_of_stuck hs hw

def State.tally? (s : State Memory) : Option (Except Failure Tally) :=
  match s.worker with
  | .refused cause => some (.error cause)
  | .done => some (.ok s.tally)
  | _ => none

/-- The result that both sides together come to once they are over. A refused login
wins over a broken log. -/
def State.result? (s : State Memory) : Option (Except Failure Summary) :=
  match s.tally?, s.scan with
  | some (.error cause), .done _ | some (.error cause), .broken _ => some (.error cause)
  | some (.ok _), .broken cause => some (.error (.io cause))
  | some (.ok tally), .done lines => some (.ok ⟨lines, s.parsed, s.dropped, tally⟩)
  | _, _ => none

theorem tally?_isSome {s : State Memory} (h : s.isOver = true) : s.tally?.isSome = true := by
  have : s.worker.isOver = true := by simp_all [State.isOver]
  unfold State.tally?
  cases hw : s.worker <;> simp_all [Worker.isOver]

theorem result?_isSome {s : State Memory} (h : s.isOver = true) : s.result?.isSome = true := by
  have present := tally?_isSome h
  have ended : s.scan.isOver = true := by simp_all [State.isOver]
  obtain ⟨tally, ht⟩ := Option.isSome_iff_exists.1 present
  unfold State.result?
  rw [ht]
  cases hs : s.scan <;> cases tally <;> simp_all [Scan.isOver]

/-- What a run comes to, all that was seen of it, and what the service remembers. -/
structure Report (Memory : Type) where
  result : Except Failure Summary
  trace : Trace
  memory : Memory

/-- The last thing to happen in a run that succeeds is its summary. -/
def closed (result : Except Failure Summary) (trace : Trace) : Trace :=
  match result with
  | .ok summary => .event (.finished summary) :: trace
  | .error _ => trace

def run (setup : Setup Memory) (stream : Log.Stream) : Report Memory :=
  let first := State.start setup stream
  let final := complete setup first
  let result := final.result?.get (result?_isSome (complete_isOver setup first))
  ⟨result, closed result final.trace, final.memory⟩

/-- Updates order lines that are given and not read from a log. -/
def drain (setup : Setup Memory) (lines : List OrderLine) : Except Failure Tally × Trace :=
  let first := State.filled setup lines
  let final := complete setup first
  (final.tally?.get (tally?_isSome (complete_isOver setup first)), final.trace)

end OrderReplay.Replay

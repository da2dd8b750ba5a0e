import OrderReplay.Proofs.Replay.Result

/-! How far the scan runs ahead of the worker, and why a replay comes to its end. Between
what has been parsed and what has been taken lie the queue and at most one order line that
waits for a place in it. While one side waits the other can move, and every move uses up
some of the work that the log allows. -/
namespace OrderReplay

def Okapi.Call.line? : Okapi.Call → Option OrderLine
  | .login _ => none
  | .update _ line => some line

namespace Replay

open FailureLine (orderLines)

variable {Memory : Type} {setup : Setup Memory} {stream : Log.Stream} {s t : State Memory}

/-- Order lines that the worker has taken from the queue, the first one first. -/
def Trace.taken (trace : Trace) : List OrderLine := trace.calls.reverse.filterMap Okapi.Call.line?

/-- The order line that waits for a place in the queue. -/
def Scan.held? : Scan → Option OrderLine
  | .sending _ _ line => some line
  | .reading _ | .done _ | .broken _ => none

def Scan.unread : Scan → List Text
  | .reading reader | .sending reader _ _ => reader.rest.texts
  | .done _ | .broken _ => []

/-- The texts read so far give the order lines taken, queued and held, in this order. -/
def State.Accounts (setup : Setup Memory) (stream : Log.Stream) (s : State Memory) : Prop :=
  ∃ read, stream.texts = read ++ s.scan.unread ∧
    s.parsed = (orderLines setup.extent read).length ∧
    orderLines setup.extent read = s.trace.taken ++ s.queue ++ s.scan.held?.toList

/-- What holds of the queue and of what passes through it. A worker that was refused has
dropped the queue, and nothing is accounted for any more. -/
structure Measured (setup : Setup Memory) (stream : Log.Stream) (s : State Memory) : Prop where
  bounded : s.queue.length ≤ capacity
  attended : s.Attended
  emptied : s.worker = .done → s.queue = []
  accounts : (∀ cause, s.worker ≠ .refused cause) → s.Accounts setup stream

theorem orderLines_append (extent : Payload.Extent) (a b : List Text) :
    orderLines extent (a ++ b) = orderLines extent a ++ orderLines extent b :=
  List.filterMap_append

theorem State.Accounts.read {text : Text} {more : List Text}
    (accounts : s.Accounts setup stream)
    (gives : orderLines setup.extent [text] = t.scan.held?.toList)
    (before : s.scan.unread = text :: more) (free : s.scan.held? = none)
    (after : t.scan.unread = more)
    (parsed : t.parsed = s.parsed + t.scan.held?.toList.length) (queue : t.queue = s.queue)
    (taken : t.trace.taken = s.trace.taken) : t.Accounts setup stream := by
  obtain ⟨read, whole, count, lines⟩ := accounts
  refine ⟨read ++ [text], ?_, ?_, ?_⟩
  · rw [whole, before, after, List.append_assoc, List.singleton_append]
  · rw [orderLines_append, List.length_append, gives, parsed, count]
  · rw [orderLines_append, lines, free, gives, queue, taken, Option.toList_none,
      List.append_nil]

theorem State.Accounts.same (accounts : s.Accounts setup stream)
    (unread : t.scan.unread = s.scan.unread) (parsed : t.parsed = s.parsed)
    (lines : t.trace.taken ++ t.queue ++ t.scan.held?.toList =
      s.trace.taken ++ s.queue ++ s.scan.held?.toList) : t.Accounts setup stream := by
  obtain ⟨read, whole, count, same⟩ := accounts
  exact ⟨read, unread ▸ whole, parsed ▸ count, same.trans lines.symm⟩

theorem measured_start (setup : Setup Memory) (stream : Log.Stream) :
    Measured setup stream (State.start setup stream) where
  bounded := Nat.zero_le _
  attended left := by cases left
  emptied _ := rfl
  accounts _ := ⟨[], rfl, rfl, rfl⟩

theorem accounts_step (valid : Measured setup stream s) (h : Step setup s t)
    (open? : ∀ cause, t.worker ≠ .refused cause) : t.Accounts setup stream := by
  have before (same : t.worker = s.worker) : s.Accounts setup stream :=
    valid.accounts (same ▸ open?)
  have working (cause : Failure) {worker : Worker} (here : s.worker = worker)
      (other : worker ≠ .refused cause) : s.worker ≠ .refused cause := here ▸ other
  cases h with
  | ended here last | interrupted here last =>
    exact (before rfl).same (by simp [Scan.unread, here, last]) rfl (by simp [Scan.held?, here])
  | skipped here yields is =>
    exact (before rfl).read (orderLines_skipped [] is) (by rw [here]; exact yields.texts)
      (by rw [here]; rfl) rfl rfl rfl rfl
  | recovered here yields is =>
    exact (before rfl).read (orderLines_recovered [] is) (by rw [here]; exact yields.texts)
      (by rw [here]; rfl) rfl rfl rfl rfl
  | dropped here yields is =>
    exact (before rfl).read (orderLines_dropped [] is) (by rw [here]; exact yields.texts)
      (by rw [here]; rfl) rfl rfl rfl rfl
  | queued here =>
    exact (before rfl).same (by simp [Scan.unread, here]) rfl (by simp [Scan.held?, here])
  | stopped here deserted =>
    obtain ⟨cause, left⟩ := refused_of_deserted valid.attended here deserted
    exact absurd left (open? cause)
  | refused => exact absurd rfl (open? _)
  | asked here | admitted here | taken here | saved here | failed here | drained here =>
    refine (valid.accounts fun cause => working cause here (by simp)).same rfl rfl ?_
    simp_all [Trace.taken, Trace.calls, Okapi.Call.line?]

theorem measured_step (valid : Measured setup stream s) (h : Step setup s t) :
    Measured setup stream t where
  bounded := by
    have bounded := valid.bounded
    cases h with
    | queued here listened room =>
      rw [List.length_append]
      exact room
    | refused => exact Nat.zero_le _
    | taken here first =>
      rw [first, List.length_cons] at bounded
      exact Nat.le_of_succ_le bounded
    | ended | interrupted | skipped | recovered | dropped | stopped | asked | admitted | saved
    | failed | drained => exact bounded
  attended := attended_step valid.attended h
  emptied left := by
    cases h with
    | queued here listened =>
      have left : s.worker = .done := left
      simp [left, Worker.isOver] at listened
    | drained here empty => exact empty
    | ended | interrupted | skipped | recovered | dropped | stopped => exact valid.emptied left
    | asked | admitted | refused | taken | saved | failed => cases left
  accounts := accounts_step valid h

theorem measured_execute (setup : Setup Memory) (stream : Log.Stream) (schedule : List Side) :
    Measured setup stream (execute setup schedule (State.start setup stream)) :=
  execute_induction (Measured setup stream) (measured_start setup stream)
    (fun _ _ => measured_step) schedule

theorem refusal?_step (h : Step setup s t) : t.refusal? setup = s.refusal? setup := by
  cases h with
  | ended | interrupted | skipped | recovered | dropped | queued | stopped => rfl
  | admitted here answer | refused here answer => simp [State.refusal?, here, answer]
  | asked here | taken here | saved here | failed here | drained here =>
    simp [State.refusal?, here]

def step? (setup : Setup Memory) : Side → State Memory → Option (State Memory)
  | .scan => scanStep? setup
  | .worker => workerStep? setup

theorem advance_eq (setup : Setup Memory) (side : Side) (s : State Memory) :
    advance setup side s = (step? setup side s).getD s := by
  cases side <;> rfl

theorem step?_work {side : Side} (h : step? setup side s = some t) : t.work < s.work := by
  cases side with
  | scan => exact scanStep?_work h
  | worker => exact workerStep?_work h

/-- While a replay is not over, one of its sides can move. -/
theorem exists_step? (going : s.isOver = false) : ∃ side, (step? setup side s).isSome = true := by
  cases scan : step? setup .scan s with
  | some => exact ⟨.scan, by rw [scan]; rfl⟩
  | none =>
    cases worker : step? setup .worker s with
    | some => exact ⟨.worker, by rw [worker]; rfl⟩
    | none =>
      have ended := isOver_of_stuck scan worker
      rw [going] at ended
      cases ended

theorem refusal?_execute (schedule : List Side) :
    (execute setup schedule s).refusal? setup = s.refusal? setup :=
  execute_induction (fun t => t.refusal? setup = s.refusal? setup) rfl
    (fun _ _ same step => (refusal?_step step).trans same) schedule

/-- Behind an accepted login the worker leaves only an empty queue. -/
theorem queue_of_isOver {session : Okapi.Session}
    (admitted : (setup.service.login setup.service.fresh setup.credentials).1 = .ok session)
    (schedule : List Side)
    (ended : (execute setup schedule (State.start setup stream)).isOver = true) :
    (execute setup schedule (State.start setup stream)).queue = [] := by
  have valid := measured_execute setup stream schedule
  have accepted : (State.start setup stream).refusal? setup = none := by
    simp [State.refusal?, State.start, admitted]
  have kept := (refusal?_execute schedule).trans accepted
  generalize execute setup schedule (State.start setup stream) = s at ended valid kept
  have worked : s.worker.isOver = true := (Bool.and_eq_true_iff.1 ended).2
  cases left : s.worker with
  | done => exact valid.emptied left
  | refused cause => simp [State.refusal?, left] at kept
  | idle | loggingIn | ready | saving => simp [left, Worker.isOver] at worked

def turned (setup : Setup Memory) (stream : Log.Stream) (turns : Nat → Side) (n : Nat) :
    State Memory :=
  execute setup ((List.range n).map turns) (State.start setup stream)

theorem turned_succ (turns : Nat → Side) (n : Nat) :
    turned setup stream turns (n + 1) = advance setup (turns n) (turned setup stream turns n) := by
  rw [turned, List.range_succ, List.map_append, execute_append]
  rfl

/-- Every turn in which a side moves uses up work, so they are no more than there was work. -/
theorem work_turned {turns : Nat → Side}
    (busy : ∀ n, (turned setup stream turns n).isOver = false →
      (step? setup (turns n) (turned setup stream turns n)).isSome = true) (n : Nat) :
    (∃ m ≤ n, (turned setup stream turns m).isOver = true) ∨
      (turned setup stream turns n).work + n ≤ (State.start setup stream).work := by
  induction n with
  | zero => exact .inr (Nat.le_refl _)
  | succ n ih =>
    rcases ih with ⟨m, before, ended⟩ | bounded
    · exact .inl ⟨m, Nat.le_succ_of_le before, ended⟩
    · cases ended : (turned setup stream turns n).isOver with
      | true => exact .inl ⟨n, Nat.le_succ n, ended⟩
      | false =>
        obtain ⟨t, moved⟩ := Option.isSome_iff_exists.1 (busy n ended)
        have less := step?_work moved
        rw [turned_succ, advance_eq, moved, Option.getD_some]
        exact .inr (by omega)

/-- In every state that a replay can come to, at most 64 order lines are queued; unless the
login was refused, the order lines that the log has given so far are those taken, those
queued and at most one that waits, in this order; and unless all is over, one of the sides
can move. Behind an accepted login nothing stays in the queue. A replay in which each turn
is given to a side that can move is over after a number of turns that the log bounds. -/
theorem bounded_lookahead (setup : Setup Memory) (stream : Log.Stream) :
    (∀ schedule, let s := execute setup schedule (State.start setup stream)
      s.queue.length ≤ 64 ∧
      ((∀ cause, s.worker ≠ .refused cause) →
        ∃ read, stream.texts = read ++ s.scan.unread ∧
          s.parsed = (orderLines setup.extent read).length ∧
          orderLines setup.extent read = s.trace.taken ++ s.queue ++ s.scan.held?.toList) ∧
      (s.isOver = false → ∃ side, (step? setup side s).isSome = true) ∧
      (s.isOver = true → ∀ session,
        (setup.service.login setup.service.fresh setup.credentials).1 = .ok session →
          s.queue = [])) ∧
    ∀ turns : Nat → Side,
      (∀ n, (turned setup stream turns n).isOver = false →
        (step? setup (turns n) (turned setup stream turns n)).isSome = true) →
      ∃ n ≤ 8 * Log.Stream.size stream + 7, (turned setup stream turns n).isOver = true := by
  constructor
  · intro schedule s
    have valid := measured_execute setup stream schedule
    exact ⟨valid.bounded, valid.accounts, exists_step?,
      fun ended _ admitted => queue_of_isOver admitted schedule ended⟩
  · intro turns busy
    have work : (State.start setup stream).work = 8 * Log.Stream.size stream + 7 := by
      simp [State.work, State.start, Scan.work, Worker.work, Log.Reader.ofStream]
    rcases work_turned busy (8 * Log.Stream.size stream + 7) with ended | bounded
    · exact ended
    · -- All work is used up, and without work left no side can move.
      rw [work] at bounded
      refine ⟨_, Nat.le_refl _, eq_true_of_ne_false fun going => ?_⟩
      obtain ⟨t, moved⟩ := Option.isSome_iff_exists.1 (busy _ going)
      have less := step?_work moved
      omega

end Replay
end OrderReplay

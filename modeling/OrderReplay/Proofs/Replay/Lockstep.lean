import OrderReplay.Proofs.Replay.Record
import OrderReplay.Proofs.Replay.Scanned

/-! Two replays of one log side by side, whose services give the same answers. Every step of
the one is a step of the other, and the states they come to differ in nothing but the
password, the token, and what the services remember. The services are compared on what they
still have to answer in these two replays, and on no other calls. -/
namespace OrderReplay

def Okapi.Call.veiled : Okapi.Call → Okapi.Call
  | .login credentials => .login { credentials with password := [] }
  | .update _ line => .update ⟨[]⟩ line

namespace Replay

open FailureLine (orderLines)

variable {Memory Other : Type} {a : Setup Memory} {b : Setup Other} {s : State Memory}
  {t : State Other}

def Entry.veiled : Entry → Entry
  | .began call => .began call.veiled
  | .settled accepted => .settled accepted
  | .event e => .event e

def Trace.veiled (trace : Trace) : Trace := trace.map Entry.veiled

theorem Trace.veiled_cons (entry : Entry) (rest : Trace) :
    Trace.veiled (entry :: rest) = entry.veiled :: Trace.veiled rest := rfl

theorem events_veiled (trace : Trace) : trace.veiled.events = trace.events := by
  induction trace with
  | nil => rfl
  | cons entry rest ih =>
    rw [Trace.veiled_cons]
    cases entry with
    | began => exact (Trace.events_began _ _).trans (ih.trans (Trace.events_began _ _).symm)
    | settled => exact (Trace.events_settled _ _).trans (ih.trans (Trace.events_settled _ _).symm)
    | event e => rw [Entry.veiled, Trace.events_event, Trace.events_event, ih]

theorem events_of_veiled {one other : Trace} (same : one.veiled = other.veiled) :
    one.events = other.events := by
  rw [← events_veiled, same, events_veiled]

/-- Answers that a service gives to the calls of a replay: the refusal of its login, or what
it replies to the updates. -/
def Setup.answers (setup : Setup Memory) (stream : Log.Stream) :
    Except Failure (List (Except Failure Unit)) :=
  match setup.service.login setup.service.fresh setup.credentials with
  | (.ok session, memory) =>
    .ok (setup.service.replies session memory (orderLines setup.extent stream.texts))
  | (.error cause, _) => .error cause

namespace State

def outlook (setup : Setup Memory) (s : State Memory) :
    Except Failure (List (Except Failure Unit)) :=
  match s.worker with
  | .idle | .loggingIn =>
    match setup.service.login s.memory setup.credentials with
    | (.ok session, memory) => .ok (setup.service.replies session memory (s.waiting setup))
    | (.error cause, _) => .error cause
  | .ready session => .ok (setup.service.replies session s.memory (s.waiting setup))
  | .saving session line =>
    .ok (setup.service.replies session s.memory (line :: s.waiting setup))
  | .done => .ok []
  | .refused cause => .error cause

end State

/-- Workers that differ at most in their sessions. -/
inductive Worker.Alike : Worker → Worker → Prop where
  | idle : Alike .idle .idle
  | loggingIn : Alike .loggingIn .loggingIn
  | ready (one other : Okapi.Session) : Alike (.ready one) (.ready other)
  | saving (one other : Okapi.Session) (line : OrderLine) :
      Alike (.saving one line) (.saving other line)
  | done : Alike .done .done
  | refused (cause : Failure) : Alike (.refused cause) (.refused cause)

theorem Worker.Alike.isOver {v w : Worker} (h : v.Alike w) : v.isOver = w.isOver := by
  cases h <;> rfl

/-- States that differ at most in their secrets and in what the services remember. -/
structure State.Alike (s : State Memory) (t : State Other) : Prop where
  scan : s.scan = t.scan
  parsed : s.parsed = t.parsed
  dropped : s.dropped = t.dropped
  queue : s.queue = t.queue
  worker : s.worker.Alike t.worker
  tally : s.tally = t.tally
  trace : s.trace.veiled = t.trace.veiled

/-- States that are alike and are still to be given the same answers. -/
structure State.Paired (a : Setup Memory) (b : Setup Other) (s : State Memory)
    (t : State Other) : Prop where
  alike : s.Alike t
  outlook : s.outlook a = t.outlook b

theorem readLine_alike (extent : a.extent = b.extent) (h : s.Alike t) (reader : Log.Reader) :
    (readLine a s reader).Alike (readLine b t reader) := by
  obtain ⟨scan, parsed, dropped, queue, worker, tally, trace⟩ := h
  rcases next : reader.next with ⟨reading, after⟩
  cases reading with
  | finished | fault =>
    simp only [readLine, next]
    exact ⟨rfl, parsed, dropped, queue, worker, tally, trace⟩
  | line line =>
    simp only [readLine, next, extent]
    cases FailureLine.outcome b.extent line.text with
    | skipped => exact ⟨rfl, parsed, dropped, queue, worker, tally, trace⟩
    | recovered => exact ⟨rfl, congrArg (· + 1) parsed, dropped, queue, worker, tally, trace⟩
    | dropped =>
      exact ⟨rfl, parsed, congrArg (· + 1) dropped, queue, worker, tally,
        congrArg (Entry.veiled _ :: ·) trace⟩

/-- The scan of the one can move exactly where that of the other can, and to the same end. -/
theorem scanStep?_alike (extent : a.extent = b.extent) (h : s.Alike t) :
    Option.Rel State.Alike (scanStep? a s) (scanStep? b t) := by
  have listened := h.worker.isOver
  obtain ⟨scan, parsed, dropped, queue, worker, tally, trace⟩ := h
  unfold scanStep?
  rw [← scan, ← listened, ← queue]
  split
  next reader here =>
    exact .some (readLine_alike extent ⟨scan, parsed, dropped, queue, worker, tally, trace⟩ _)
  next reader number line here =>
    by_cases deserted : s.worker.isOver = true
    · rw [if_pos deserted, if_pos deserted]
      exact .some ⟨rfl, parsed, dropped, rfl, worker, tally,
        congrArg (Entry.veiled _ :: ·) trace⟩
    · rw [if_neg deserted, if_neg deserted]
      by_cases room : s.queue.length < capacity
      · rw [if_pos room, if_pos room]
        exact .some ⟨rfl, parsed, dropped, rfl, worker, tally, trace⟩
      · rw [if_neg room, if_neg room]
        exact .none
  next => exact .none
  next => exact .none

/-- Either both sides can move, to states that are related, or neither can. -/
theorem rel_cases {related : State Memory → State Other → Prop} {s' : Option (State Memory)}
    {t' : Option (State Other)} (h : Option.Rel related s' t') :
    (s' = none ∧ t' = none) ∨ ∃ u v, s' = some u ∧ t' = some v ∧ related u v := by
  cases h with
  | none => exact .inl ⟨rfl, rfl⟩
  | some both => exact .inr ⟨_, _, rfl, rfl, both⟩

theorem kept_of_scanStep? {s t : State Memory} (h : scanStep? a s = some t) :
    t.worker = s.worker ∧ t.memory = s.memory := by
  unfold scanStep? at h
  split at h
  next reader here =>
    obtain rfl := Option.some.inj h
    unfold readLine
    split
    next => exact ⟨rfl, rfl⟩
    next => exact ⟨rfl, rfl⟩
    next => split <;> exact ⟨rfl, rfl⟩
  next =>
    split at h
    next =>
      obtain rfl := Option.some.inj h
      exact ⟨rfl, rfl⟩
    next =>
      split at h
      next =>
        obtain rfl := Option.some.inj h
        exact ⟨rfl, rfl⟩
      next => cases h
  next => cases h
  next => cases h

theorem outlook_congr {s t : State Memory} (worker : t.worker = s.worker)
    (memory : t.memory = s.memory)
    (waiting : s.worker.isOver = false → t.waiting a = s.waiting a) :
    t.outlook a = s.outlook a := by
  cases ended : s.worker.isOver with
  | false => simp only [State.outlook, worker, memory, waiting ended]
  | true => cases left : s.worker <;> simp_all [State.outlook, Worker.isOver]

theorem outlook_scanStep? {s t : State Memory} (h : scanStep? a s = some t) :
    t.outlook a = s.outlook a := by
  obtain ⟨worker, memory⟩ := kept_of_scanStep? h
  exact outlook_congr worker memory (waiting_step (step_of_scanStep? h) worker)

theorem scanStep?_paired (extent : a.extent = b.extent) (h : s.Paired a b t) :
    Option.Rel (State.Paired a b) (scanStep? a s) (scanStep? b t) := by
  rcases rel_cases (scanStep?_alike extent h.alike) with
    ⟨one, other⟩ | ⟨u, v, one, other, alike⟩
  · rw [one, other]
    exact .none
  · rw [one, other]
    exact .some ⟨alike, by rw [outlook_scanStep? one, outlook_scanStep? other, h.outlook]⟩

/-- The worker of the one can move exactly where that of the other can, and takes the same
answer. -/
theorem workerStep?_paired (username : a.credentials.username = b.credentials.username)
    (h : s.Paired a b t) :
    Option.Rel (State.Paired a b) (workerStep? a s) (workerStep? b t) := by
  obtain ⟨scan, parsed, dropped, queue, v, tally, trace, memory⟩ := s
  obtain ⟨scan', parsed', dropped', queue', w, tally', trace', memory'⟩ := t
  obtain ⟨⟨same, count, drops, line, worker, sum, left⟩, outlook⟩ := h
  dsimp only at same count drops line worker sum left
  subst same count drops line sum
  cases worker with
  | idle =>
    refine .some ⟨⟨rfl, rfl, rfl, rfl, .loggingIn, rfl, ?_⟩, outlook⟩
    simp only [Trace.veiled_cons, Entry.veiled, Okapi.Call.veiled, username, left]
  | loggingIn =>
    rcases one : a.service.login memory a.credentials with ⟨answer, after⟩
    rcases other : b.service.login memory' b.credentials with ⟨answer', after'⟩
    simp only [State.outlook, one, other] at outlook
    simp only [workerStep?, one, other]
    cases answer with
    | ok session =>
      cases answer' with
      | ok session' =>
        refine .some ⟨⟨rfl, rfl, rfl, rfl, .ready session session', rfl, ?_⟩, outlook⟩
        simp only [settleLogin, Trace.veiled_cons, left]
      | error => cases outlook
    | error cause =>
      cases answer' with
      | ok => cases outlook
      | error cause' =>
        cases outlook
        refine .some ⟨⟨rfl, rfl, rfl, rfl, .refused cause, rfl, ?_⟩, rfl⟩
        simp only [settleLogin, Trace.veiled_cons, left]
  | ready one other =>
    cases queue with
    | cons line rest =>
      refine .some ⟨⟨rfl, rfl, rfl, rfl, .saving one other line, rfl, ?_⟩, outlook⟩
      simp only [Trace.veiled_cons, Entry.veiled, Okapi.Call.veiled, left]
    | nil =>
      simp only [workerStep?]
      by_cases silent : scan.isOver = true
      · rw [if_pos silent, if_pos silent]
        exact .some ⟨⟨rfl, rfl, rfl, rfl, .done, rfl, left⟩, rfl⟩
      · rw [if_neg silent, if_neg silent]
        exact .none
  | saving one other line =>
    -- The next answer to come is the answer to this update.
    simp only [State.outlook, Okapi.Service.replies] at outlook
    obtain ⟨reply, outlook⟩ := List.cons.inj (Except.ok.inj outlook)
    simp only [workerStep?]
    rw [← reply]
    cases (a.service.update memory one line).1 with
    | ok =>
      refine .some ⟨⟨rfl, rfl, rfl, rfl, .ready one other, rfl, ?_⟩, congrArg Except.ok outlook⟩
      simp only [settleUpdate, Trace.veiled_cons, left]
    | error cause =>
      refine .some ⟨⟨rfl, rfl, rfl, rfl, .ready one other, rfl, ?_⟩, congrArg Except.ok outlook⟩
      simp only [settleUpdate, Trace.veiled_cons, left]
  | done => exact .none
  | refused cause => exact .none

/-- Under one and the same schedule two replays stay alike. -/
theorem execute_paired (extent : a.extent = b.extent)
    (username : a.credentials.username = b.credentials.username) (schedule : List Side)
    (h : s.Paired a b t) : (execute a schedule s).Paired a b (execute b schedule t) := by
  induction schedule generalizing s t with
  | nil => exact h
  | cons side schedule ih =>
    apply ih
    have moved : Option.Rel (State.Paired a b) (step? a side s) (step? b side t) := by
      cases side with
      | scan => exact scanStep?_paired extent h
      | worker => exact workerStep?_paired username h
    rw [advance_eq, advance_eq]
    rcases rel_cases moved with ⟨one, other⟩ | ⟨u, v, one, other, paired⟩
    · rw [one, other]
      exact h
    · rw [one, other]
      exact paired

theorem complete_of_scanStep? {s t : State Memory} (h : scanStep? a s = some t) :
    complete a s = complete a t := by
  rw [complete, h]

theorem complete_of_workerStep? {s t : State Memory} (stuck : scanStep? a s = none)
    (h : workerStep? a s = some t) : complete a s = complete a t := by
  rw [complete, stuck, h]

theorem complete_of_stuck {s : State Memory} (stuck : scanStep? a s = none)
    (idle : workerStep? a s = none) : complete a s = s := by
  rw [complete, stuck, idle]

/-- The runs that move the scan first move the same side in every step. -/
theorem complete_paired (extent : a.extent = b.extent)
    (username : a.credentials.username = b.credentials.username) (h : s.Paired a b t) :
    (complete a s).Paired a b (complete b t) := by
  fun_induction complete a s generalizing t with
  | case1 s s' moved ih =>
    rcases rel_cases (scanStep?_paired extent h) with ⟨stuck, -⟩ | ⟨u, v, one, other, paired⟩
    · rw [moved] at stuck
      cases stuck
    · obtain rfl := Option.some.inj (one.symm.trans moved)
      rw [complete_of_scanStep? other]
      exact ih paired
  | case2 s stuck s' moved ih =>
    rcases rel_cases (scanStep?_paired extent h) with ⟨-, stuck'⟩ | ⟨u, v, one, -⟩
    · rcases rel_cases (workerStep?_paired username h) with ⟨idle, -⟩ | ⟨u, v, one, other, paired⟩
      · rw [moved] at idle
        cases idle
      · obtain rfl := Option.some.inj (one.symm.trans moved)
        rw [complete_of_workerStep? stuck' other]
        exact ih paired
    · rw [stuck] at one
      cases one
  | case3 s stuck idle =>
    rcases rel_cases (scanStep?_paired extent h) with ⟨-, stuck'⟩ | ⟨u, v, one, -⟩
    · rcases rel_cases (workerStep?_paired username h) with ⟨-, idle'⟩ | ⟨u, v, one, -⟩
      · rw [complete_of_stuck stuck' idle']
        exact h
      · rw [idle] at one
        cases one
    · rw [stuck] at one
      cases one

theorem paired_start {stream : Log.Stream} (answers : a.answers stream = b.answers stream) :
    (State.start a stream).Paired a b (State.start b stream) :=
  ⟨⟨rfl, rfl, rfl, rfl, .idle, rfl, rfl⟩, answers⟩

namespace State.Alike

variable (h : s.Alike t)

include h

theorem isOver : s.isOver = t.isOver := by
  rw [State.isOver, State.isOver, h.scan, h.worker.isOver]

theorem events : s.trace.events = t.trace.events := events_of_veiled h.trace

theorem result? : s.result? = t.result? := by
  have tally : s.tally? = t.tally? := by
    obtain ⟨-, -, -, -, worker, tally, -⟩ := h
    unfold State.tally?
    rw [← tally]
    generalize s.worker = v, t.worker = w at worker
    cases worker <;> rfl
  simp only [State.result?, tally, h.scan, h.parsed, h.dropped]

end State.Alike

theorem veiled_closed {one other : Trace} (result : Except Failure Summary)
    (same : one.veiled = other.veiled) :
    Trace.veiled (closed result one) = Trace.veiled (closed result other) := by
  cases result with
  | error => exact same
  | ok summary => exact congrArg (Entry.veiled (.event (.finished summary)) :: ·) same

/-- Two replays of one log for one user whose services give the same answers. Under every
schedule they are alike at every moment, and so are the runs that move the scan first. -/
theorem alike_of_answers (extent : a.extent = b.extent)
    (username : a.credentials.username = b.credentials.username) {stream : Log.Stream}
    (answers : a.answers stream = b.answers stream) :
    (∀ schedule, (execute a schedule (State.start a stream)).Alike
      (execute b schedule (State.start b stream))) ∧
    (run a stream).result = (run b stream).result ∧
      (run a stream).trace.veiled = (run b stream).trace.veiled := by
  have start := paired_start answers
  have last := (complete_paired extent username start).alike
  have result : (run a stream).result = (run b stream).result := by
    have same := last.result?
    simp only [run, same]
  refine ⟨fun schedule => (execute_paired extent username schedule start).alike, result, ?_⟩
  have closing : (run a stream).trace =
      closed (run b stream).result (complete a (State.start a stream)).trace := by
    rw [← result]
    rfl
  rw [closing]
  exact veiled_closed _ last.trace

end Replay
end OrderReplay

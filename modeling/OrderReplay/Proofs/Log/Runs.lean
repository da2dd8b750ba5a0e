import OrderReplay.Proofs.Log.Lines

/-! A log read on through its read errors. A log is a list of runs of octets, each ended by a
read error, and a last run that ends with the log. Every run is read for itself: a read error
takes the line that it interrupts with it and hides nothing that comes behind it. -/
namespace OrderReplay.Log

namespace Stream

/-- Runs that a read error ends, and a last one. The octets of a run arrive in portions of any
size. -/
def ofRuns (runs : List (List (List UInt8) × Text)) (last : List (List UInt8)) : Stream :=
  runs.foldr (fun (portions, cause) later => broken portions cause later) (last.map .octets)

theorem beyond_broken (portions : List (List UInt8)) (cause : Text) (later : Stream) :
    (broken portions cause later).beyond = later := by
  induction portions with
  | nil => rfl
  | cons portion rest ih => exact ih

theorem octets_whole (portions : List (List UInt8)) :
    octets (portions.map .octets) = portions.flatten := by
  induction portions with
  | nil => rfl
  | cons portion rest ih => exact congrArg (portion ++ ·) ih

theorem fault?_whole (portions : List (List UInt8)) : fault? (portions.map .octets) = none := by
  induction portions with
  | nil => rfl
  | cons portion rest ih => exact ih

/-- Every log is made of runs. -/
theorem exists_ofRuns (stream : Stream) : ∃ runs last, stream = ofRuns runs last := by
  induction stream with
  | nil => exact ⟨[], [], rfl⟩
  | cons arrival rest ih =>
    obtain ⟨runs, last, rfl⟩ := ih
    cases arrival with
    | fault cause => exact ⟨([], cause) :: runs, last, rfl⟩
    | octets portion =>
      cases runs with
      | nil => exact ⟨[], portion :: last, rfl⟩
      | cons run runs => exact ⟨(portion :: run.1, run.2) :: runs, last, rfl⟩

end Stream

def Reading.line? : Reading → Option Line
  | .line found => some found
  | .fault _ | .finished => none

abbrev Finding := Reading × Nat

def linesOf (findings : List Finding) : List Line :=
  findings.filterMap fun (found, _) => found.line?

def handed (read : Nat) (texts : List Text) : List Finding :=
  (texts.zipIdx (read + 1)).map fun (text, number) => (.line ⟨number, text⟩, number)

/-- What is to be found in runs, behind so many lines: in each run the lines that a line feed
ends, and then its read error; in the last one also what stands behind its last line feed. -/
def account (read : Nat) :
    List (List (List UInt8) × Text) → List (List UInt8) → List Finding
  | [], last => handed read (terminated last.flatten ++ leftover last.flatten)
  | (portions, cause) :: runs, last =>
    let lines := terminated portions.flatten
    handed read lines ++
      (.fault cause, read + lines.length) :: account (read + lines.length) runs last

theorem handed_cons (read : Nat) (text : Text) (texts : List Text) :
    handed read (text :: texts) =
      (.line ⟨read + 1, text⟩, read + 1) :: handed (read + 1) texts := by
  simp [handed]

theorem length_handed (read : Nat) (texts : List Text) :
    (handed read texts).length = texts.length := by
  simp [handed]

theorem linesOf_append (found more : List Finding) :
    linesOf (found ++ more) = linesOf found ++ linesOf more := List.filterMap_append

theorem length_linesOf_handed (read : Nat) (texts : List Text) :
    (linesOf (handed read texts)).length = texts.length := by
  induction texts generalizing read with
  | nil => rfl
  | cons text rest ih =>
    rw [handed_cons]
    exact congrArg (· + 1) (ih (read + 1))

namespace Reader

def calls : Nat → Reader → List Finding
  | 0, _ => []
  | n + 1, r => (r.next.1, r.next.2.read) :: calls n r.next.2

theorem calls_empty (n read : Nat) :
    calls n ⟨[], read⟩ = List.replicate n (.finished, read) := by
  induction n with
  | zero => rfl
  | succ n ih =>
    have stop : next ⟨[], read⟩ = (.finished, ⟨[], read⟩) := rfl
    rw [calls, stop, ih, List.replicate_succ]

/-- The lines up to a read error or to the end are handed out one by one, and leave what
comes behind them as it is. -/
theorem calls_texts {texts : List Text} {r : Reader} (given : r.rest.texts = texts) (n : Nat) :
    ∃ rest, calls (texts.length + n) r =
        handed r.read texts ++ calls n ⟨rest, r.read + texts.length⟩ ∧
      rest.texts = [] ∧ rest.fault? = r.rest.fault? ∧ rest.beyond = r.rest.beyond := by
  induction texts generalizing r with
  | nil => exact ⟨r.rest, by simp [handed], given, rfl, rfl⟩
  | cons text texts ih =>
    obtain ⟨left, found, following, fault, beyond⟩ := next_line given
    obtain ⟨rest, later, none, same, behind⟩ := ih (r := ⟨left, r.read + 1⟩) following
    refine ⟨rest, ?_, none, same.trans fault, behind.trans beyond⟩
    have count : r.read + (text :: texts).length = r.read + 1 + texts.length := by
      rw [List.length_cons]
      omega
    rw [count, handed_cons, List.length_cons, Nat.add_right_comm, calls, found, later,
      List.cons_append]

/-- A run is read to its read error, and then the log is read on behind it. -/
theorem calls_broken (portions : List (List UInt8)) (cause : Text) (later : Stream)
    (n read : Nat) :
    let lines := terminated portions.flatten
    calls (lines.length + (n + 1)) ⟨.broken portions cause later, read⟩ =
      handed read lines ++
        (.fault cause, read + lines.length) :: calls n ⟨later, read + lines.length⟩ := by
  intro lines
  obtain ⟨rest, found, none, fault, beyond⟩ := calls_texts
    (r := ⟨.broken portions cause later, read⟩) (Stream.texts_broken portions cause later) (n + 1)
  have broken : rest.fault? = some cause :=
    fault.trans (Stream.fault?_broken portions cause later)
  have stop := next_stop (r := ⟨rest, read + lines.length⟩) none
  rw [broken, beyond, Stream.beyond_broken] at stop
  rw [found, calls, stop]

theorem calls_whole (portions : List (List UInt8)) (n read : Nat) :
    let lines := terminated portions.flatten ++ leftover portions.flatten
    calls (lines.length + n) ⟨portions.map .octets, read⟩ =
      handed read lines ++ List.replicate n (.finished, read + lines.length) := by
  intro lines
  have whole := Stream.fault?_whole portions
  have texts : Stream.texts (portions.map .octets) = lines := by
    simp [Stream.texts, whole, Stream.octets_whole, lines]
  obtain ⟨rest, found, none, fault, beyond⟩ :=
    calls_texts (r := ⟨portions.map .octets, read⟩) texts n
  have stop := next_stop (r := ⟨rest, read + lines.length⟩) none
  rw [fault.trans whole, beyond, Stream.beyond_of_whole whole] at stop
  rw [found]
  cases n with
  | zero => rfl
  | succ n => rw [calls, stop, calls_empty, List.replicate_succ]

theorem calls_ofRuns (runs : List (List (List UInt8) × Text)) (last : List (List UInt8))
    (n read : Nat) :
    let found := account read runs last
    calls (found.length + n) ⟨.ofRuns runs last, read⟩ =
      found ++ List.replicate n (.finished, read + (linesOf found).length) := by
  induction runs generalizing read with
  | nil =>
    intro found
    have count : (linesOf found).length =
        (terminated last.flatten ++ leftover last.flatten).length := length_linesOf_handed ..
    have length : found.length = (terminated last.flatten ++ leftover last.flatten).length :=
      length_handed ..
    rw [count, length]
    exact calls_whole last n read
  | cons run runs ih =>
    obtain ⟨portions, cause⟩ := run
    intro found
    have rest := ih (read + (terminated portions.flatten).length)
    have first := calls_broken portions cause (.ofRuns runs last)
      ((account (read + (terminated portions.flatten).length) runs last).length + n) read
    simp only [rest] at first
    have length : found.length + n = (terminated portions.flatten).length +
        ((account (read + (terminated portions.flatten).length) runs last).length + n + 1) := by
      simp only [found, account, List.length_append, List.length_cons, length_handed]
      omega
    have count : read + (linesOf found).length = read + (terminated portions.flatten).length +
        (linesOf (account (read + (terminated portions.flatten).length) runs last)).length := by
      simp only [found, account, linesOf_append, List.length_append, length_linesOf_handed]
      simp only [linesOf, List.filterMap_cons, Reading.line?]
      omega
    rw [length, count]
    refine first.trans ?_
    simp only [found, account, List.append_assoc, List.cons_append]

/-- A call counts the line that it hands out, which takes the next number, and nothing else. -/
theorem next_counts (r : Reader) :
    r.next.2.read = r.read + r.next.1.line?.toList.length ∧
      ∀ line ∈ r.next.1.line?, line.number = r.read + 1 := by
  unfold next
  split <;> simp [Reading.line?]

/-- However often the reader is called, its lines are numbered on from those before, and their
count is what the last call leaves. -/
theorem calls_numbered (n : Nat) (r : Reader) :
    let lines := linesOf (calls n r)
    lines.map Line.number = List.range' (r.read + 1) lines.length ∧
      (((calls n r).getLast?.map Prod.snd).getD r.read) = r.read + lines.length := by
  induction n generalizing r with
  | zero => exact ⟨rfl, rfl⟩
  | succ n ih =>
    obtain ⟨count, number⟩ := r.next_counts
    obtain ⟨numbers, counts⟩ := ih r.next.2
    have last : ((calls (n + 1) r).getLast?.map Prod.snd).getD r.read =
        ((calls n r.next.2).getLast?.map Prod.snd).getD r.next.2.read := by
      rw [calls, List.getLast?_cons]
      cases (calls n r.next.2).getLast? <;> rfl
    dsimp only
    rw [last, counts, count]
    cases found : r.next.1.line? with
    | none =>
      have same : linesOf (calls (n + 1) r) = linesOf (calls n r.next.2) := by
        simp [calls, linesOf, found]
      rw [same, numbers, count, found]
      exact ⟨rfl, rfl⟩
    | some line =>
      have more : linesOf (calls (n + 1) r) = line :: linesOf (calls n r.next.2) := by
        simp [calls, linesOf, found]
      have first : line.number = r.read + 1 := number line found
      rw [more, List.map_cons, numbers, count, found, first, List.length_cons, List.range'_succ]
      refine ⟨rfl, ?_⟩
      simp only [Option.toList_some, List.length_singleton]
      omega

end Reader
end OrderReplay.Log

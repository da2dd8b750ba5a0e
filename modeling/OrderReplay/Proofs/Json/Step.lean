import OrderReplay.Json.Reader
import OrderReplay.Proofs.Except

/-! What one character can do to the reader of JSON, said once. Each step that is not
refused is one of these; what they all preserve holds of every text that is accepted. -/
namespace OrderReplay.Json

def Mode.isIdle : Mode → Bool
  | .string _ | .keyString .. | .number .. | .literal .. => false
  | _ => true

/-- A numeral does not go on with a character that is neither a digit nor a mark of numerals. -/
theorem Numeral.step_ne_more {c : Char} {phase more : Phase} (digit : Text.digit? c = none)
    (foreign : c ∉ ['.', '+', '-', 'e', 'E']) : step phase c ≠ .ok (some more) := by
  obtain ⟨point, plus, minus, small, capital⟩ :
      c ≠ '.' ∧ c ≠ '+' ∧ c ≠ '-' ∧ c ≠ 'e' ∧ c ≠ 'E' := by simpa using foreign
  cases phase <;>
    simp [step, afterInteger, afterFraction, isMark, digit, point, plus, minus, small, capital]

namespace Reader

/-- A value may begin here, in these containers. -/
inductive Expects : Reader → List Frame → Prop where
  | value {stack} : Expects ⟨stack, .value⟩ stack
  | item {stack} : Expects ⟨stack, .listStart⟩ (.list [] :: stack)

inductive KeyDue : Mode → Members → Prop where
  | first : KeyDue .objectStart []
  | later {members} : KeyDue (.key members) members

def literals : List (Text × Value) :=
  [(['n', 'u', 'l', 'l'], .null), (['t', 'r', 'u', 'e'], .bool true),
    (['f', 'a', 'l', 's', 'e'], .bool false)]

inductive Step (root : Root) : Reader → Char → Reader → Prop where
  | blank {stack mode c} (idle : mode.isIdle = true) (space : isSpace c = true) :
      Step root ⟨stack, mode⟩ c ⟨stack, mode⟩
  | brace {r stack} (expects : Expects r stack) (room : stack.length < depthLimit) :
      Step root r '\x7b' ⟨stack, .objectStart⟩
  | bracket {r stack} (expects : Expects r stack) (room : stack.length < depthLimit) :
      Step root r '[' ⟨stack, .listStart⟩
  | quote {r stack} (expects : Expects r stack) : Step root r '"' ⟨stack, .string .start⟩
  | letter {r stack c due value} (expects : Expects r stack)
      (name : (c :: due, value) ∈ literals) : Step root r c ⟨stack, .literal due value⟩
  | digit {r stack c negative phase} (expects : Expects r stack)
      (first : Numeral.start? c = some (negative, phase)) :
      Step root r c ⟨stack, .number negative phase⟩
  | listEmpty {stack next} (settled : settle root (.list []) stack = .ok next) :
      Step root ⟨stack, .listStart⟩ ']' next
  | listComma {stack items} :
      Step root ⟨stack, .listNext items⟩ ',' ⟨.list items :: stack, .value⟩
  | listEnd {stack items next} (settled : settle root (.list items.reverse) stack = .ok next) :
      Step root ⟨stack, .listNext items⟩ ']' next
  | objectEmpty {stack next} (settled : settle root (.object []) stack = .ok next) :
      Step root ⟨stack, .objectStart⟩ '\x7d' next
  | objectComma {stack members} :
      Step root ⟨stack, .objectNext members⟩ ',' ⟨stack, .key members⟩
  | objectEnd {stack members next} (settled : settle root (.object members) stack = .ok next) :
      Step root ⟨stack, .objectNext members⟩ '\x7d' next
  | keyQuote {stack mode members} (due : KeyDue mode members) :
      Step root ⟨stack, mode⟩ '"' ⟨stack, .keyString members .start⟩
  | keyMore {stack members scan more c} (read : Quotation.step scan c = .ok (.more more)) :
      Step root ⟨stack, .keyString members scan⟩ c ⟨stack, .keyString members more⟩
  | keyEnd {stack members scan key c} (read : Quotation.step scan c = .ok (.closed key)) :
      Step root ⟨stack, .keyString members scan⟩ c ⟨stack, .colon members key⟩
  | colon {stack members key} :
      Step root ⟨stack, .colon members key⟩ ':' ⟨.object members key :: stack, .value⟩
  | stringMore {stack scan more c} (read : Quotation.step scan c = .ok (.more more)) :
      Step root ⟨stack, .string scan⟩ c ⟨stack, .string more⟩
  | stringEnd {stack scan text c next} (read : Quotation.step scan c = .ok (.closed text))
      (settled : settle root (.string text) stack = .ok next) :
      Step root ⟨stack, .string scan⟩ c next
  | literalMore {stack c due value} (some : due ≠ []) :
      Step root ⟨stack, .literal (c :: due) value⟩ c ⟨stack, .literal due value⟩
  | literalEnd {stack c value next} (settled : settle root value stack = .ok next) :
      Step root ⟨stack, .literal [c] value⟩ c next
  | numberMore {stack negative phase more c} (read : Numeral.step phase c = .ok (some more)) :
      Step root ⟨stack, .number negative phase⟩ c ⟨stack, .number negative more⟩
  /-- A number ends at the first character that it cannot take, which is then read behind it. -/
  | numberEnd {stack negative phase number c behind next}
      (read : Numeral.step phase c = .ok none)
      (finished : Numeral.finish negative phase = .ok number)
      (settled : settle root (.number number) stack = .ok behind)
      (step : Step root behind c next) : Step root ⟨stack, .number negative phase⟩ c next

/-- A value that has been read is followed by a comma or an end, or by nothing at all. -/
inductive Settled : Reader → Prop where
  | list {stack items} : Settled ⟨stack, .listNext items⟩
  | object {stack members} : Settled ⟨stack, .objectNext members⟩
  | complete {value} : Settled ⟨[], .complete value⟩

theorem settled_of_settle {root : Root} {value : Value} {stack : List Frame} {r : Reader}
    (h : settle root value stack = .ok r) : Settled r := by
  cases stack with
  | nil =>
    simp only [settle] at h
    split at h
    · obtain rfl := Except.ok.inj h
      exact .complete
    · cases h
  | cons frame outer =>
    cases frame with
    | list items =>
      obtain rfl := Except.ok.inj h
      exact .list
    | object members key =>
      obtain rfl := Except.ok.inj h
      exact .object

/-- What is read behind a value is read by the same rules, whether the value is a number
that ends there or another one. -/
theorem step_of_settled {root : Root} {r : Reader} (settled : Settled r) (c : Char) :
    step root r c = stepBehind root r c := by
  cases settled <;> rfl

theorem step_of_stepBehind {root : Root} {r next : Reader} {c : Char} (settled : Settled r)
    (h : stepBehind root r c = .ok next) : Step root r c next := by
  cases settled with
  | list =>
    simp only [stepBehind] at h
    split at h
    next space => obtain rfl := Except.ok.inj h; exact .blank rfl space
    next =>
      split at h
      next is => obtain rfl := Except.ok.inj h; exact is ▸ .listComma
      next =>
        split at h
        next is => exact is ▸ .listEnd h
        next => cases h
  | object =>
    simp only [stepBehind] at h
    split at h
    next space => obtain rfl := Except.ok.inj h; exact .blank rfl space
    next =>
      split at h
      next is => obtain rfl := Except.ok.inj h; exact is ▸ .objectComma
      next =>
        split at h
        next is => exact is ▸ .objectEnd h
        next => cases h
  | complete =>
    simp only [stepBehind] at h
    split at h
    next space => obtain rfl := Except.ok.inj h; exact .blank rfl space
    next => cases h

theorem step_of_deepen {stack : List Frame} {mode : Mode} {next : Reader}
    (h : deepen stack mode = .ok next) : stack.length < depthLimit ∧ next = ⟨stack, mode⟩ := by
  unfold deepen at h
  split at h
  next room => exact ⟨room, (Except.ok.inj h).symm⟩
  next => cases h

theorem step_of_beginValue {root : Root} {r next : Reader} {stack : List Frame} {c : Char}
    (expects : Expects r stack) (h : beginValue root stack c = .ok next) :
    Step root r c next := by
  unfold beginValue at h
  split at h
  next is =>
    obtain ⟨room, rfl⟩ := step_of_deepen h
    exact is ▸ .brace expects room
  next =>
  split at h
  next is =>
    split at h
    next => cases h
    next =>
      obtain ⟨room, rfl⟩ := step_of_deepen h
      exact is ▸ .bracket expects room
  next =>
  split at h
  next is => obtain rfl := Except.ok.inj h; exact is ▸ .quote expects
  next =>
  split at h
  next is => obtain rfl := Except.ok.inj h; exact is ▸ .letter expects (by simp [literals])
  next =>
  split at h
  next is => obtain rfl := Except.ok.inj h; exact is ▸ .letter expects (by simp [literals])
  next =>
  split at h
  next is => obtain rfl := Except.ok.inj h; exact is ▸ .letter expects (by simp [literals])
  next =>
  split at h
  next first => obtain rfl := Except.ok.inj h; exact .digit expects first
  next => cases h

theorem step_of_stepKey {root : Root} {stack : List Frame} {mode : Mode} {members : Members}
    {c : Char} {next : Reader} (due : KeyDue mode members)
    (h : stepKey stack members c = .ok next) : Step root ⟨stack, mode⟩ c next := by
  unfold stepKey at h
  split at h
  next is => obtain rfl := Except.ok.inj h; exact is ▸ .keyQuote due
  next => cases h

theorem step_of_number {root : Root} {stack : List Frame} {negative : Bool}
    {phase : Numeral.Phase} {c : Char} {next : Reader}
    (h : step root ⟨stack, .number negative phase⟩ c = .ok next) :
    Step root ⟨stack, .number negative phase⟩ c next := by
  obtain ⟨more?, read, h⟩ := ok_of_bind h
  cases more? with
  | some more => obtain rfl := Except.ok.inj h; exact .numberMore read
  | none =>
    obtain ⟨number, finished, h⟩ := ok_of_bind h
    obtain ⟨behind, settled, h⟩ := ok_of_bind h
    exact .numberEnd read finished settled (step_of_stepBehind (settled_of_settle settled) h)

/-- A character that is not refused makes one of the steps. -/
theorem step_ok {root : Root} {r next : Reader} {c : Char} (h : step root r c = .ok next) :
    Step root r c next := by
  obtain ⟨stack, mode⟩ := r
  cases mode with
  | value =>
    simp only [step] at h
    split at h
    next space => obtain rfl := Except.ok.inj h; exact .blank rfl space
    next => exact step_of_beginValue .value h
  | listStart =>
    simp only [step] at h
    split at h
    next space => obtain rfl := Except.ok.inj h; exact .blank rfl space
    next =>
      split at h
      next is => exact is ▸ .listEmpty h
      next => exact step_of_beginValue .item h
  | listNext items => exact step_of_stepBehind .list h
  | objectStart =>
    simp only [step] at h
    split at h
    next space => obtain rfl := Except.ok.inj h; exact .blank rfl space
    next =>
      split at h
      next is => exact is ▸ .objectEmpty h
      next => exact step_of_stepKey .first h
  | key members =>
    simp only [step] at h
    split at h
    next space => obtain rfl := Except.ok.inj h; exact .blank rfl space
    next => exact step_of_stepKey .later h
  | colon members key =>
    simp only [step] at h
    split at h
    next space => obtain rfl := Except.ok.inj h; exact .blank rfl space
    next =>
      split at h
      next is => obtain rfl := Except.ok.inj h; exact is ▸ .colon
      next => cases h
  | objectNext members => exact step_of_stepBehind .object h
  | string scan =>
    obtain ⟨progress, read, h⟩ := ok_of_bind h
    cases progress with
    | more more => obtain rfl := Except.ok.inj h; exact .stringMore read
    | closed text => exact .stringEnd read h
  | keyString members scan =>
    obtain ⟨progress, read, h⟩ := ok_of_bind h
    cases progress with
    | more more => obtain rfl := Except.ok.inj h; exact .keyMore read
    | closed text => obtain rfl := Except.ok.inj h; exact .keyEnd read
  | number negative phase => exact step_of_number h
  | literal due value =>
    cases due with
    | nil => cases h
    | cons letter due =>
      simp only [step] at h
      split at h
      next => cases h
      next same =>
        obtain rfl : c = letter := by simpa using same
        split at h
        next last =>
          obtain rfl : due = [] := by simpa using last
          exact .literalEnd h
        next more =>
          obtain rfl := Except.ok.inj h
          exact .literalMore (by simpa using more)
  | complete value =>
    simp only [step, stepBehind] at h
    split at h
    next space => obtain rfl := Except.ok.inj h; exact .blank rfl space
    next => cases h

theorem run_cons_ok {root : Root} {r next : Reader} {c : Char} {rest : Text}
    (h : run root r (c :: rest) = .ok next) :
    ∃ mid, step root r c = .ok mid ∧ run root mid rest = .ok next := by
  simp only [run] at h
  split at h
  next mid moved => exact ⟨mid, moved, h⟩
  next => cases h

theorem run_append_ok {root : Root} {r next : Reader} {a b : Text}
    (h : run root r (a ++ b) = .ok next) :
    ∃ mid, run root r a = .ok mid ∧ run root mid b = .ok next := by
  rw [run_append] at h
  exact ok_of_bind h

/-- What every step preserves holds at the end of a text that is not refused. -/
theorem run_induction (holds : Reader → Prop) {root : Root} {r next : Reader} {text : Text}
    (start : holds r) (step : ∀ r c next, holds r → Step root r c next → holds next)
    (h : run root r text = .ok next) : holds next := by
  induction text generalizing r with
  | nil =>
    obtain rfl := Except.ok.inj h
    exact start
  | cons c rest ih =>
    obtain ⟨mid, moved, h⟩ := run_cons_ok h
    exact ih (step _ _ _ start (step_ok moved)) h

end Reader

/-- A text that is accepted has been read to its end, and may end there. -/
theorem run_of_read {root : Root} {text : Text} {value : Value} (h : read root text = .ok value) :
    ∃ r, Reader.run root .start text = .ok r ∧ Reader.finish root r = .ok value :=
  ok_of_bind h

theorem read_of_readObject {text : Text} {fields : Members}
    (h : readObject text = .ok fields) : read .object text = .ok (.object fields) := by
  obtain ⟨value, read, h⟩ := ok_of_bind h
  cases value with
  | object members =>
    obtain rfl := Except.ok.inj h
    exact read
  | _ => cases h

theorem readObject_of_read {text : Text} {flaw : Flaw}
    (h : read .object text = .error flaw) : readObject text = .error flaw := by
  simp [readObject, h, bind, Except.bind]

end OrderReplay.Json

import OrderReplay.Json.Printer
import OrderReplay.Proofs.Json.Sound

/-! Strings and integers read back from their written forms. Both are said of the scanner
first, apart from the reader, so that keys and values share one argument. -/
namespace OrderReplay.Json

/-- So many characters are taken in one after the other, each as `moves` has it. -/
inductive Goes {σ : Type} (moves : σ → Char → σ → Prop) : σ → Text → σ → Prop where
  | done {a} : Goes moves a [] a
  | more {a mid b c rest} (move : moves a c mid) (goes : Goes moves mid rest b) :
      Goes moves a (c :: rest) b

theorem Goes.trans {σ : Type} {moves : σ → Char → σ → Prop} {a b c : σ} {first second : Text}
    (left : Goes moves a first b) (right : Goes moves b second c) :
    Goes moves a (first ++ second) c := by
  induction left with
  | done => exact right
  | more move _ ih => exact .more move (ih right)

namespace Quotation

def Moves (scan : Scan) (c : Char) (next : Scan) : Prop := step scan c = .ok (.more next)

/-- Controls have values below 32, so their first two digits are zeros. -/
theorem fourDigits_control (n : Fin 32) : ∃ c d, fourDigits n = ['0', '0', c, d] ∧
    unit? [d, c, '0', '0'] = some n.val ∧ c.utf8Size = 1 ∧ d.utf8Size = 1 :=
  ⟨Nat.digitChar (n / 16), Nat.digitChar (n % 16), by revert n; decide⟩

theorem settle_control {n : Nat} (small : n < 0x20) (read : Text) :
    settle read none n = .ok ⟨Char.ofNat n :: read, .plain⟩ := by
  have low : isLow n = false := by
    simp only [isLow, Bool.and_eq_false_iff, decide_eq_false_iff_not]
    omega
  have high : isHigh n = false := by
    simp only [isHigh, Bool.and_eq_false_iff, decide_eq_false_iff_not]
    omega
  simp [settle, low, high]

theorem goes_control {c : Char} (small : c.toNat < 0x20) (read : Text) :
    Goes Moves ⟨read, .plain⟩ (['\\', 'u'] ++ fourDigits c.toNat) ⟨c :: read, .plain⟩ := by
  obtain ⟨x, y, digits, unit, narrow, narrow'⟩ := fourDigits_control ⟨c.toNat, small⟩
  have zero : '0'.utf8Size = 1 := rfl
  have slash : step ⟨read, .plain⟩ '\\' = .ok (.more ⟨read, .escape⟩) := rfl
  have letter : step ⟨read, .escape⟩ 'u' = .ok (.more ⟨read, .digits none []⟩) := rfl
  have first : step ⟨read, .digits none []⟩ '0' = .ok (.more ⟨read, .digits none ['0']⟩) := rfl
  have second : step ⟨read, .digits none ['0']⟩ '0' =
      .ok (.more ⟨read, .digits none ['0', '0']⟩) := rfl
  have third : step ⟨read, .digits none ['0', '0']⟩ x =
      .ok (.more ⟨read, .digits none [x, '0', '0']⟩) := by
    simp [step, digitStep, width, zero, narrow, Except.map]
  have last : step ⟨read, .digits none [x, '0', '0']⟩ y = .ok (.more ⟨c :: read, .plain⟩) := by
    simp [step, digitStep, width, zero, narrow, narrow', unit, settle_control small,
      Char.ofNat_toNat, Except.map]
  rw [digits]
  exact .more slash (.more letter (.more first (.more second (.more third (.more last .done)))))

theorem goes_escape (c : Char) (read : Text) :
    Goes Moves ⟨read, .plain⟩ (escape c) ⟨c :: read, .plain⟩ := by
  have short {letter : Char} (other : letter ≠ 'u') (means : shortEscape? letter = some c) :
      Goes Moves ⟨read, .plain⟩ ['\\', letter] ⟨c :: read, .plain⟩ := by
    have slash : step ⟨read, .plain⟩ '\\' = .ok (.more ⟨read, .escape⟩) := rfl
    exact .more slash (.more (by simp [Moves, step, other, means]) .done)
  unfold escape
  split
  next is => subst is; exact short (by decide) rfl
  next quote =>
  split
  next is => subst is; exact short (by decide) rfl
  next slash =>
  split
  next is => subst is; exact short (by decide) rfl
  next =>
  split
  next is => subst is; exact short (by decide) rfl
  next =>
  split
  next is => subst is; exact short (by decide) rfl
  next =>
  split
  next is => subst is; exact short (by decide) rfl
  next =>
  split
  next is => subst is; exact short (by decide) rfl
  next =>
  split
  next small => exact goes_control small read
  next large => exact .more (by simp [Moves, step, quote, slash, large]) .done

theorem goes_text (text read : Text) :
    Goes Moves ⟨read, .plain⟩ (text.flatMap escape) ⟨text.reverse ++ read, .plain⟩ := by
  induction text generalizing read with
  | nil => exact .done
  | cons c rest ih =>
    have later := ih (c :: read)
    rw [List.reverse_cons, List.append_assoc, List.flatMap_cons]
    exact (goes_escape c read).trans later

end Quotation

namespace Numeral

def Moves (phase : Phase) (c : Char) (next : Phase) : Prop := step phase c = .ok (some next)

theorem digit?_digitChar {n : Nat} (h : n < 10) : Text.digit? (Nat.digitChar n) = some n := by
  have all : ∀ d : Fin 10, Text.digit? (Nat.digitChar d) = some d.val := by decide
  exact all ⟨n, h⟩

def digitsPhase (n : Nat) : Phase := if n = 0 then .zero else .integer n

theorem finish_digitsPhase (negative : Bool) (n : Nat) :
    finish negative (digitsPhase n) = integer negative n := by
  unfold digitsPhase
  split
  next zero => rw [zero]; rfl
  next => rfl

theorem goes_digits {n : Nat} (fits : n < significandLimit) :
    Goes Moves .sign (Text.ofNat n) (digitsPhase n) := by
  induction n using Nat.strongRecOn with
  | _ n ih =>
    by_cases single : n < 10
    · rw [Text.ofNat, Nat.toDigits_of_lt_base single]
      refine .more ?_ .done
      cases n with
      | zero => rfl
      | succ n => simp [Moves, step, digit?_digitChar single, digitsPhase]
    · have more : n / 10 ≠ 0 := by omega
      have whole : n / 10 * 10 + n % 10 = n := by omega
      have front := ih (n / 10) (by omega) (by omega)
      rw [digitsPhase, if_neg more] at front
      rw [Text.ofNat, Nat.toDigits_of_base_le (by decide) (by omega)]
      refine front.trans (.more ?_ .done)
      have some : n ≠ 0 := by omega
      simp [Moves, step, digit?_digitChar (Nat.mod_lt n (by decide : 0 < 10)), whole, fits,
        digitsPhase, some]

theorem ofNat_cons {n : Nat} (fits : n < significandLimit) :
    ∃ c d rest, Text.ofNat n = c :: rest ∧ Text.digit? c = some d := by
  have goes := goes_digits fits
  cases digits : Text.ofNat n with
  | nil => exact absurd digits Nat.toDigits_ne_nil
  | cons c rest =>
    rw [digits] at goes
    cases goes with
    | more move _ =>
      cases digit : Text.digit? c with
      | none => simp [Moves, step, digit] at move
      | some d => exact ⟨c, d, rest, rfl, digit⟩

def isEnd (c : Char) : Bool := (Text.digit? c).isNone && c != '.' && !isMark c

theorem step_isEnd {c : Char} (h : isEnd c = true) (n : Nat) :
    step (digitsPhase n) c = .ok none := by
  simp only [isEnd, Bool.and_eq_true, Option.isNone_iff_eq_none, bne_iff_ne, Bool.not_eq_true'] at h
  obtain ⟨⟨digit, point⟩, mark⟩ := h
  unfold digitsPhase
  split <;> simp [step, digit, afterInteger, point, mark]

end Numeral

namespace Reader

theorem run_cons {root : Root} {r next : Reader} {c : Char} (h : step root r c = .ok next)
    (rest : Text) : run root r (c :: rest) = run root next rest := by
  simp [run, h]

/-- What a scanner takes in, the reader takes in that holds it. -/
theorem run_goes {σ : Type} {moves : σ → Char → σ → Prop} {root : Root} {hold : σ → Reader}
    (each : ∀ a c b, moves a c b → step root (hold a) c = .ok (hold b)) {a b : σ} {text : Text}
    (goes : Goes moves a text b) (rest : Text) :
    run root (hold a) (text ++ rest) = run root (hold b) rest := by
  induction goes with
  | done => rfl
  | more move _ ih =>
    rw [List.cons_append, run_cons (each _ _ _ move)]
    exact ih

def settleThen (root : Root) (value : Value) (stack : List Frame) (rest : Text) :
    Except Flaw Reader :=
  (settle root value stack).bind (run root · rest)

theorem run_settle {root : Root} {r : Reader} {value : Value} {stack : List Frame} {c : Char}
    (h : step root r c = settle root value stack) (rest : Text) :
    run root r (c :: rest) = settleThen root value stack rest := by
  rw [run, h, settleThen]
  cases settle root value stack <;> rfl

/-- An escaped text, up to the quote that ends the string. -/
theorem run_text {root : Root} {hold : Quotation.Scan → Reader}
    (each : ∀ a c b, Quotation.Moves a c b → step root (hold a) c = .ok (hold b))
    (text rest : Text) :
    run root (hold .start) (text.flatMap Quotation.escape ++ rest) =
      run root (hold ⟨text.reverse, .plain⟩) rest := by
  have within := run_goes each (Quotation.goes_text text []) rest
  rw [List.append_nil] at within
  exact within

theorem run_string (root : Root) (stack : List Frame) (text rest : Text) :
    run root ⟨stack, .value⟩ (Quotation.render text ++ rest) =
      settleThen root (.string text) stack rest := by
  have opens : step root ⟨stack, .value⟩ '"' = .ok ⟨stack, .string .start⟩ := rfl
  have each (a : Quotation.Scan) (c : Char) (b : Quotation.Scan) (move : Quotation.Moves a c b) :
      step root ⟨stack, .string a⟩ c = .ok ⟨stack, .string b⟩ := by
    unfold Quotation.Moves at move
    simp [step, move, bind, Except.bind]
  have closes : step root ⟨stack, .string ⟨text.reverse, .plain⟩⟩ '"' =
      settle root (.string text) stack := by
    simp [step, Quotation.step, bind, Except.bind]
  simp only [Quotation.render, List.cons_append, List.append_assoc, List.nil_append]
  rw [run_cons opens, run_text each, run_settle closes]

theorem run_key (root : Root) (stack : List Frame) (members : Members) (key rest : Text) :
    run root ⟨stack, .keyString members .start⟩ (key.flatMap Quotation.escape ++ '"' :: rest) =
      run root ⟨stack, .colon members key⟩ rest := by
  have each (a : Quotation.Scan) (c : Char) (b : Quotation.Scan) (move : Quotation.Moves a c b) :
      step root ⟨stack, .keyString members a⟩ c = .ok ⟨stack, .keyString members b⟩ := by
    unfold Quotation.Moves at move
    simp [step, move, bind, Except.bind]
  have closes : step root ⟨stack, .keyString members ⟨key.reverse, .plain⟩⟩ '"' =
      .ok ⟨stack, .colon members key⟩ := by
    simp [step, Quotation.step, bind, Except.bind]
  rw [run_text each, run_cons closes]

/-- A digit is none of the characters that mean something else. -/
theorem ne_of_digit {c other : Char} {d : Nat} (digit : Text.digit? c = some d)
    (none : Text.digit? other = none) : c ≠ other := by
  rintro rfl
  rw [digit] at none
  cases none

theorem isSpace_of_digit {c : Char} {d : Nat} (digit : Text.digit? c = some d) :
    isSpace c = false := by
  simp only [isSpace, Bool.or_eq_false_iff, beq_eq_false_iff_ne]
  exact ⟨⟨⟨ne_of_digit digit rfl, ne_of_digit digit rfl⟩, ne_of_digit digit rfl⟩,
    ne_of_digit digit rfl⟩

theorem beginValue_digit {root : Root} {stack : List Frame} {c : Char} {d : Nat}
    (digit : Text.digit? c = some d) : beginValue root stack c =
      .ok ⟨stack, .number false (if d = 0 then .zero else .integer d)⟩ := by
  have start : Numeral.start? c = some (false, if d = 0 then .zero else .integer d) := by
    cases d <;> simp [Numeral.start?, digit]
  have other {x : Char} (none : Text.digit? x = none) : c ≠ x := ne_of_digit digit none
  rw [beginValue, if_neg (other rfl), if_neg (other rfl), if_neg (other rfl),
    if_neg (other rfl), if_neg (other rfl), if_neg (other rfl), start]

theorem step_digit {root : Root} {stack : List Frame} {c : Char} {d : Nat}
    (digit : Text.digit? c = some d) :
    step root ⟨stack, .value⟩ c = step root ⟨stack, .number false .sign⟩ c := by
  have space := isSpace_of_digit digit
  cases d <;> simp [step, space, beginValue_digit digit, Numeral.step, digit, bind, Except.bind]

/-- A number ends at what cannot belong to it, and that is read behind the number. -/
theorem run_numberEnd {root : Root} {stack : List Frame} {negative : Bool}
    {phase : Numeral.Phase} {number : Number} {c : Char} (stops : Numeral.step phase c = .ok none)
    (finished : Numeral.finish negative phase = .ok number) (rest : Text) :
    run root ⟨stack, .number negative phase⟩ (c :: rest) =
      settleThen root (.number number) stack (c :: rest) := by
  cases settled : settle root (.number number) stack with
  | error flaw => simp [settleThen, run, step, stops, finished, settled, bind, Except.bind]
  | ok behind =>
    have same : step root behind c = stepBehind root behind c :=
      step_of_settled (settled_of_settle settled) c
    have moved : step root ⟨stack, .number negative phase⟩ c = stepBehind root behind c := by
      simp [step, stops, finished, settled, bind, Except.bind]
    rw [settleThen, settled]
    simp only [Except.bind, run, moved, same]

theorem run_digits {root : Root} {stack : List Frame} {negative : Bool} {n : Nat}
    {number : Number} (fits : n < Numeral.significandLimit)
    (means : Numeral.integer negative n = .ok number) {c : Char} (ends : Numeral.isEnd c = true)
    (rest : Text) :
    run root ⟨stack, .number negative .sign⟩ (Text.ofNat n ++ c :: rest) =
      settleThen root (.number number) stack (c :: rest) := by
  have each (a : Numeral.Phase) (c : Char) (b : Numeral.Phase) (move : Numeral.Moves a c b) :
      step root ⟨stack, .number negative a⟩ c = .ok ⟨stack, .number negative b⟩ := by
    unfold Numeral.Moves at move
    simp [step, move, bind, Except.bind]
  rw [run_goes each (Numeral.goes_digits fits)]
  exact run_numberEnd (Numeral.step_isEnd ends n)
    ((Numeral.finish_digitsPhase negative n).trans means) rest

theorem run_integer {v : Int} (held : (Number.integer v).Held) (root : Root)
    (stack : List Frame) {c : Char} (ends : Numeral.isEnd c = true) (rest : Text) :
    run root ⟨stack, .value⟩ ((Number.integer v).written ++ c :: rest) =
      settleThen root (.number (.integer v)) stack (c :: rest) := by
  simp only [Number.Held] at held
  cases v with
  | ofNat n =>
    have fits : n < Numeral.significandLimit := by simpa using held.2
    have means : Numeral.integer false n = .ok (.integer (.ofNat n)) := rfl
    rw [Number.written, ← run_digits fits means ends rest]
    obtain ⟨first, d, more, digits, digit⟩ := Numeral.ofNat_cons fits
    simp only [digits, List.cons_append, run, step_digit digit]
  | negSucc n =>
    have fits : n + 1 ≤ Numeral.negativeLimit := by
      have := held.1
      simp only [Int.negSucc_eq] at this
      omega
    have small : n + 1 < Numeral.significandLimit := Nat.lt_of_le_of_lt fits (by decide)
    have means : Numeral.integer true (n + 1) = .ok (.integer (.negSucc n)) := by
      have signed : ¬ (n + 1 = 0 ∨ Numeral.negativeLimit < n + 1) := by omega
      rw [Numeral.integer, if_pos rfl, if_neg signed]
      rfl
    have sign : step root ⟨stack, .value⟩ '-' = .ok ⟨stack, .number true .sign⟩ := rfl
    rw [Number.written, List.cons_append, run_cons sign]
    exact run_digits small means ends rest

end Reader
end OrderReplay.Json

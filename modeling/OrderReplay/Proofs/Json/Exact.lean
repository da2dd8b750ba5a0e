import OrderReplay.Proofs.Binary64.Rounding
import OrderReplay.Proofs.Json.Printed

/-! Which numerals come back with their value from being read and written. The digits are
gathered without loss as long as the significand has 64 bits; integers in range and decimals of
fifteen digits with a small exponent come back exactly. -/
namespace OrderReplay.Json.Numeral

theorem Phase.run_append (phase : Phase) (a b : Text) :
    phase.run (a ++ b) = (phase.run a).bind (·.run b) := by
  induction a generalizing phase with
  | nil => rw [List.nil_append, Phase.run, Option.bind_some]
  | cons c rest ih =>
    rw [List.cons_append, Phase.run, Phase.run]
    split
    · exact ih _
    · rfl

theorem Phase.run_cons {phase next : Phase} {c : Char} (moves : Moves phase c next) (rest : Text) :
    phase.run (c :: rest) = next.run rest := by
  unfold Moves at moves
  rw [Phase.run, moves]

/-- Digits that are all gathered: a phase by the number that it has reached and by the digits it
has taken. -/
theorem run_digits (phase : Nat → Nat → Phase) (bound : Nat)
    (moves : ∀ {n taken d : Nat} {c : Char}, Text.digit? c = some d → n * 10 + d < bound →
      Moves (phase n taken) c (phase (n * 10 + d) (taken + 1)))
    {digits : Text} (all : Digits digits) (n taken : Nat)
    (fits : n * 10 ^ digits.length + ofDigits digits < bound) :
    (phase n taken).run digits =
      some (phase (n * 10 ^ digits.length + ofDigits digits) (taken + digits.length)) := by
  induction digits generalizing n taken with
  | nil => simp [Phase.run, ofDigits]
  | cons c rest ih =>
    obtain ⟨first, later⟩ := List.forall_mem_cons.1 all
    obtain ⟨d, digit⟩ := Option.isSome_iff_exists.1 first
    have next := shift_cons digit n rest
    have place : taken + (c :: rest).length = taken + 1 + rest.length := by
      rw [List.length_cons]
      omega
    rw [next] at fits
    have small : n * 10 + d < bound := by
      have power : 0 < 10 ^ rest.length := Nat.pow_pos (by decide)
      have grows := Nat.le_mul_of_pos_right (n * 10 + d) power
      omega
    rw [next, place, Phase.run_cons (moves digit small)]
    exact ih later _ _ fits

theorem run_integer {digits : Text} (all : Digits digits) (n : Nat)
    (fits : n * 10 ^ digits.length + ofDigits digits < significandLimit) :
    (Phase.integer n).run digits = some (.integer (n * 10 ^ digits.length + ofDigits digits)) := by
  refine run_digits (fun n _ => .integer n) significandLimit ?_ all n 0 fits
  intro n _ d c digit small
  simp [Moves, step, digit, small]

theorem run_fraction {digits : Text} (all : Digits digits) (n : Nat)
    (fits : n * 10 ^ digits.length + ofDigits digits < significandLimit) :
    (Phase.fraction ⟨n, 0⟩).run digits =
      some (.fraction ⟨n * 10 ^ digits.length + ofDigits digits, -digits.length⟩) := by
  have moves {n taken d : Nat} {c : Char} (digit : Text.digit? c = some d)
      (small : n * 10 + d < significandLimit) :
      Moves (.fraction ⟨n, -taken⟩) c (.fraction ⟨n * 10 + d, -(taken + 1 : Nat)⟩) := by
    have place : -(taken : Int) - 1 = -(taken + 1 : Nat) := by omega
    simp only [Moves, step, digit, fractionDigit, if_pos small, place]
  have run := run_digits (fun n taken => .fraction ⟨n, -taken⟩) _ moves all n 0 fits
  simpa using run

theorem run_power {digits : Text} (all : Digits digits) (s : Scaled) (down : Bool) (n : Nat)
    (fits : n * 10 ^ digits.length + ofDigits digits < exponentLimit) :
    (Phase.power s down n).run digits =
      some (.power s down (n * 10 ^ digits.length + ofDigits digits)) := by
  refine run_digits (fun n _ => .power s down n) exponentLimit ?_ all n 0 fits
  intro n _ d c digit small
  simp only [Moves, step, digit, powerDigit, if_pos small, Except.map]

theorem run_vanished {digits : Text} (all : Digits digits) :
    Phase.vanished.run digits = some .vanished := by
  induction digits with
  | nil => rfl
  | cons c rest ih =>
    obtain ⟨first, later⟩ := List.forall_mem_cons.1 all
    obtain ⟨d, digit⟩ := Option.isSome_iff_exists.1 first
    have moves : Moves .vanished c .vanished := by simp only [Moves, step, digit]
    rw [Phase.run_cons moves, ih later]

/-- An exponent that does not fit is refused, or leaves zero. -/
theorem run_power_large {digits : Text} (all : Digits digits) (s : Scaled) (down : Bool) {n : Nat}
    (small : n < exponentLimit) (large : exponentLimit ≤ n * 10 ^ digits.length + ofDigits digits) :
    (Phase.power s down n).run digits =
      if s.significand ≠ 0 ∧ down = false then none else some .vanished := by
  induction digits generalizing n with
  | nil => simp [ofDigits] at large; omega
  | cons c rest ih =>
    obtain ⟨first, later⟩ := List.forall_mem_cons.1 all
    obtain ⟨d, digit⟩ := Option.isSome_iff_exists.1 first
    have next := shift_cons digit n rest
    rw [next] at large
    by_cases fits : n * 10 + d < exponentLimit
    · have moves : Moves (.power s down n) c (.power s down (n * 10 + d)) := by
        simp only [Moves, step, digit, powerDigit, if_pos fits, Except.map]
      rw [Phase.run_cons moves, ih later fits large]
    · by_cases grows : s.significand ≠ 0 ∧ down = false
      · rw [Phase.run]
        simp only [step, digit, powerDigit, if_neg fits, if_pos grows, Except.map]
      · have moves : Moves (.power s down n) c .vanished := by
          simp only [Moves, step, digit, powerDigit, if_neg fits, if_neg grows, Except.map]
        rw [Phase.run_cons moves, run_vanished later, if_neg grows]

theorem run_whole {n : Numeral} (lawful : n.Lawful) (fits : ofDigits n.whole < significandLimit) :
    Phase.sign.run n.whole = some (digitsPhase (ofDigits n.whole)) := by
  obtain ⟨c, rest, shape⟩ := List.exists_cons_of_ne_nil lawful.present
  have digits := lawful.whole
  have leading := lawful.leading
  rw [shape] at digits leading fits ⊢
  obtain ⟨first, later⟩ := List.forall_mem_cons.1 digits
  obtain ⟨d, digit⟩ := Option.isSome_iff_exists.1 first
  have sum := shift_cons digit 0 rest
  rw [Nat.zero_mul, Nat.zero_mul, Nat.zero_add, Nat.zero_add] at sum
  cases d with
  | zero =>
    obtain rfl := eq_zero_of_digit? digit
    obtain rfl : rest = [] := (List.cons.inj (leading rfl)).2
    rfl
  | succ d =>
    have moves : Moves .sign c (.integer (d + 1)) := by simp only [Moves, step, digit]
    have some : ofDigits (c :: rest) ≠ 0 := by
      have power : 0 < 10 ^ rest.length := Nat.pow_pos (by decide)
      have grows := Nat.le_mul_of_pos_right (d + 1) power
      omega
    rw [digitsPhase, if_neg some, Phase.run_cons moves, sum]
    exact run_integer later (d + 1) (sum ▸ fits)

theorem run_point {w : Nat} {digits : Text} (all : Digits digits) (present : digits ≠ [])
    (fits : w * 10 ^ digits.length + ofDigits digits < significandLimit) :
    (digitsPhase w).run ('.' :: digits) =
      some (.fraction ⟨w * 10 ^ digits.length + ofDigits digits, -digits.length⟩) := by
  obtain ⟨c, rest, rfl⟩ := List.exists_cons_of_ne_nil present
  obtain ⟨d, digit⟩ := Option.isSome_iff_exists.1 (List.forall_mem_cons.1 all).1
  have point : Moves (digitsPhase w) '.' (.point ⟨w, 0⟩) := by
    unfold digitsPhase
    split
    next zero => rw [zero]; rfl
    next => rfl
  have same : (Phase.point ⟨w, 0⟩).run (c :: rest) = (Phase.fraction ⟨w, 0⟩).run (c :: rest) := by
    rw [Phase.run, Phase.run]
    simp only [step, digit]
  rw [Phase.run_cons point, same]
  exact run_fraction all w fits

/-- The exponent with its mark and its sign, behind a part that is complete. -/
theorem run_powerText {phase : Phase} {s : Scaled}
    (marks : ∀ c, isMark c = true → Moves phase c (.mark s)) {p : Power} (lawful : p.Lawful) :
    phase.run p.text = (Phase.power s (p.negative? = some true) 0).run p.digits := by
  obtain ⟨c, rest, shape⟩ := List.exists_cons_of_ne_nil lawful.present
  have digits := lawful.digits
  rw [shape] at digits
  obtain ⟨d, digit⟩ := Option.isSome_iff_exists.1 (List.forall_mem_cons.1 digits).1
  have mark : Moves phase (if p.capital then 'E' else 'e') (.mark s) := by
    apply marks
    cases p.capital <;> rfl
  have plain : (Phase.mark s).run (c :: rest) = (Phase.power s false 0).run (c :: rest) := by
    rw [Phase.run, Phase.run]
    simp only [step, digit]
  have signed (down : Bool) :
      (Phase.markSign s down).run (c :: rest) = (Phase.power s down 0).run (c :: rest) := by
    rw [Phase.run, Phase.run]
    simp only [step, digit]
  have plus : Moves (.mark s) '+' (.markSign s false) := rfl
  have minus : Moves (.mark s) '-' (.markSign s true) := rfl
  rw [Power.text, Phase.run_cons mark, shape]
  rcases p.negative? with _ | _ | _
  · exact plain
  · exact (Phase.run_cons plus _).trans (signed false)
  · exact (Phase.run_cons minus _).trans (signed true)

def bodyPhase (n : Numeral) : Phase :=
  match n.fraction? with
  | none => digitsPhase n.significand
  | some f => .fraction ⟨n.significand, -f.length⟩

theorem run_body {n : Numeral} (lawful : n.Lawful) (fits : n.significand < significandLimit) :
    Phase.sign.run (n.whole ++ n.fraction?.elim [] ('.' :: ·)) = some n.bodyPhase := by
  unfold bodyPhase
  have fraction := lawful.fraction
  cases given : n.fraction? with
  | none =>
    have same : n.significand = ofDigits n.whole := by simp [significand, given]
    rw [same] at fits
    rw [same, Option.elim_none, List.append_nil]
    exact run_whole lawful fits
  | some f =>
    obtain ⟨digits, present⟩ := fraction f given
    have sum : n.significand = ofDigits n.whole * 10 ^ f.length + ofDigits f := by
      rw [significand, given, Option.getD_some, ofDigits_append]
    have whole : ofDigits n.whole < significandLimit := by
      have power : 0 < 10 ^ f.length := Nat.pow_pos (by decide)
      have grows := Nat.le_mul_of_pos_right (ofDigits n.whole) power
      omega
    rw [Option.elim_some, Phase.run_append, run_whole lawful whole, Option.bind_some, sum]
    exact run_point digits present (sum ▸ fits)

theorem start?_digit {c : Char} {d : Nat} (digit : Text.digit? c = some d) :
    ∃ phase, start? c = some (false, phase) ∧ Moves .sign c phase := by
  cases d with
  | zero => exact ⟨.zero, by simp only [start?, digit], by simp only [Moves, step, digit]⟩
  | succ d =>
    exact ⟨.integer (d + 1), by simp only [start?, digit], by simp only [Moves, step, digit]⟩

theorem number?_eq {n : Numeral} (lawful : n.Lawful) (fits : n.significand < significandLimit) :
    n.number? = (n.bodyPhase.run (n.power?.elim [] Power.text)).bind
      fun last => (finish n.negative last).toOption := by
  have body := run_body lawful fits
  have whole : Phase.sign.run (n.whole ++ n.fraction?.elim [] ('.' :: ·) ++
      n.power?.elim [] Power.text) = n.bodyPhase.run (n.power?.elim [] Power.text) := by
    rw [Phase.run_append, body, Option.bind_some]
  cases negative : n.negative with
  | true =>
    have text : n.text = '-' :: (n.whole ++ n.fraction?.elim [] ('.' :: ·) ++
        n.power?.elim [] Power.text) := by
      simp [Numeral.text, negative]
    have sign : start? '-' = some (true, .sign) := rfl
    rw [← whole]
    simp only [number?, text, sign, Option.bind_eq_bind, Option.bind_some]
  | false =>
    obtain ⟨c, rest, shape⟩ := List.exists_cons_of_ne_nil lawful.present
    have digits := lawful.whole
    rw [shape] at digits whole
    obtain ⟨d, digit⟩ := Option.isSome_iff_exists.1 (List.forall_mem_cons.1 digits).1
    obtain ⟨phase, starts, moves⟩ := start?_digit digit
    have text : n.text = c :: (rest ++ n.fraction?.elim [] ('.' :: ·) ++
        n.power?.elim [] Power.text) := by
      simp [Numeral.text, negative, shape]
    rw [List.cons_append, List.cons_append, Phase.run_cons moves] at whole
    rw [← whole]
    simp only [number?, text, starts, Option.bind_eq_bind, Option.bind_some]

theorem finish_bodyPhase (n : Numeral) (negative : Bool) :
    finish negative n.bodyPhase =
      match n.fraction? with
      | none => integer negative n.significand
      | some f => real negative ⟨n.significand, -f.length⟩ := by
  unfold bodyPhase
  cases n.fraction? with
  | none => exact finish_digitsPhase negative _
  | some f => rfl

/-- A numeral without point and exponent. -/
theorem number?_integer {n : Numeral} (lawful : n.Lawful) (fits : n.significand < significandLimit)
    (fraction : n.fraction? = none) (power : n.power? = none) :
    n.number? = (integer n.negative n.significand).toOption := by
  rw [number?_eq lawful fits, power, Option.elim_none, Phase.run, Option.bind_some,
    finish_bodyPhase, fraction]

/-- Behind the significand an exponent may begin. -/
theorem bodyPhase_mark (n : Numeral) (c : Char) (mark : isMark c = true) :
    Moves n.bodyPhase c (.mark ⟨n.significand, -(n.fraction?.getD []).length⟩) := by
  have letter : c = 'e' ∨ c = 'E' := by simpa [isMark] using mark
  have digit : Text.digit? c = none := by
    rcases letter with rfl | rfl <;> rfl
  have point : c ≠ '.' := by
    rcases letter with rfl | rfl <;> decide
  unfold bodyPhase
  cases n.fraction? with
  | none =>
    have after (s : Scaled) : afterInteger s c = some (.mark s) := by
      rw [afterInteger, if_neg point, if_pos mark]
    simp only [digitsPhase]
    split
    next zero => simp [Moves, step, digit, after, zero]
    next => simp [Moves, step, digit, after]
  | some f =>
    have after (s : Scaled) : afterFraction s c = some (.mark s) := by
      rw [afterFraction, if_pos mark]
    simp only [Moves, step, digit, after, Option.getD_some]

theorem number?_real {n : Numeral} (lawful : n.Lawful) (fits : n.significand < significandLimit)
    (pointed : n.fraction? = none → n.power? ≠ none)
    (power : ∀ p ∈ n.power?, ofDigits p.digits < exponentLimit) :
    n.number? = (real n.negative ⟨n.significand, n.exponent⟩).toOption := by
  rw [number?_eq lawful fits]
  cases given : n.power? with
  | none =>
    rw [Option.elim_none, Phase.run, Option.bind_some, finish_bodyPhase]
    cases fraction : n.fraction? with
    | none => exact absurd given (pointed fraction)
    | some f => simp [exponent, given, fraction]
  | some p =>
    have lawful := lawful.power p given
    have small : 0 * 10 ^ p.digits.length + ofDigits p.digits < exponentLimit := by
      rw [Nat.zero_mul, Nat.zero_add]
      exact power p given
    rw [Option.elim_some, run_powerText n.bodyPhase_mark lawful,
      run_power lawful.digits _ _ 0 small, Option.bind_some, Nat.zero_mul, Nat.zero_add, finish]
    have sum : n.exponent = p.value - (n.fraction?.getD []).length := by
      rw [exponent, given, Option.elim_some]
    rw [sum, Power.value]
    by_cases down : p.negative? = some true
    · simp only [down, decide_true, if_true]
      rw [sub_eq_neg_add, sub_eq_add_neg, add_comm]
    · simp [down, sub_eq_neg_add]

/-- An exponent that does not fit leaves zero, if the numeral is read at all. -/
theorem number?_large {n : Numeral} (lawful : n.Lawful) (fits : n.significand < significandLimit)
    {p : Power} (given : n.power? = some p) (large : exponentLimit ≤ ofDigits p.digits)
    {number : Number} (h : n.number? = some number) :
    number = .real ⟨n.negative, 0⟩ ∧ (n.significand = 0 ∨ p.negative? = some true) := by
  have lawful' := lawful.power p given
  have some : 0 < exponentLimit := Nat.pow_pos (by decide)
  have large : exponentLimit ≤ 0 * 10 ^ p.digits.length + ofDigits p.digits := by
    rwa [Nat.zero_mul, Nat.zero_add]
  rw [number?_eq lawful fits, given, Option.elim_some, run_powerText n.bodyPhase_mark lawful',
    run_power_large lawful'.digits _ _ some large] at h
  split at h
  · cases h
  next stays =>
    simp only [Option.bind_some, finish, Except.toOption, Option.some.injEq] at h
    refine ⟨h.symm, ?_⟩
    by_cases zero : n.significand = 0
    · exact .inl zero
    · exact .inr (by simpa [zero] using stays)

/-- The numeral that is written in place of a numeral that was read. -/
def carried (n : Numeral) : Numeral := n.number.numeral

theorem carried_of_number? {n : Numeral} {number : Number} (h : n.number? = some number) :
    n.carried = number.numeral := by
  rw [carried, Numeral.number, h, Option.getD_some]

def FitsInteger (n : Numeral) : Prop :=
  n.fraction? = none ∧ n.power? = none ∧
    if n.negative then n.significand ≤ negativeLimit else n.significand < significandLimit

/-- A decimal of at most fifteen digits whose last digit is near the point. -/
def FitsDecimal (n : Numeral) : Prop :=
  n.significand < 10 ^ 15 ∧ -22 ≤ n.exponent ∧ n.exponent ≤ 22

theorem value_of_significand {n : Numeral} (zero : n.significand = 0) : n.value = 0 := by
  rw [value, zero]
  simp

theorem toOption_real {negative : Bool} {significand units : Nat} {exponent : Int}
    (h : Binary64.ofDecimal? significand exponent = some units) :
    (real negative ⟨significand, exponent⟩).toOption = some (.real ⟨negative, units⟩) := by
  rw [real, h]
  rfl

/-- Integers in range come back with their value, minus zero as a real among them. -/
theorem carried_value_integer {n : Numeral} (lawful : n.Lawful) (fits : n.FitsInteger) :
    n.carried.value = n.value := by
  obtain ⟨fraction, power, range⟩ := fits
  have bits : n.significand < significandLimit := by
    have double : negativeLimit < significandLimit := Nat.pow_lt_pow_right (by decide) (by decide)
    split at range
    · omega
    · exact range
  have whole : n.exponent = 0 := by
    rw [exponent, power, fraction]
    rfl
  have read := number?_integer lawful bits fraction power
  have same : n.value = (bif n.negative then -1 else 1) * n.significand := by
    rw [value, whole, zpow_zero, mul_one]
  rw [same]
  cases negative : n.negative with
  | false =>
    rw [negative, integer, if_neg (by decide)] at read
    rw [carried_of_number? read, Number.numeral_value_integer]
    simp
  | true =>
    rw [negative, if_pos rfl] at range
    rw [negative, integer, if_pos rfl] at read
    by_cases zero : n.significand = 0
    · rw [zero, if_pos (.inl rfl), toOption_real (Binary64.ofDecimal?_zero 0)] at read
      rw [carried_of_number? read, zero, Number.numeral, Binary64.numeral_value_zero rfl]
      simp
    · have small : ¬ (n.significand = 0 ∨ negativeLimit < n.significand) := by omega
      rw [if_neg small] at read
      rw [carried_of_number? read, Number.numeral_value_integer]
      simp

/-- Zero comes back as zero. -/
theorem carried_value_zero {n : Numeral} {negative : Bool} (zero : n.significand = 0)
    (read : n.number? = some (.real ⟨negative, 0⟩)) : n.carried.value = n.value := by
  rw [carried_of_number? read, value_of_significand zero]
  exact Binary64.numeral_value_zero rfl

/-- Decimals of fifteen digits with a small exponent come back with their value. -/
theorem carried_value_decimal {n : Numeral} (lawful : n.Lawful) (known : n.number?.isSome = true)
    (fits : n.FitsDecimal) : n.carried.value = n.value := by
  obtain ⟨short, low, high⟩ := fits
  have bits : n.significand < significandLimit := short.trans (by decide)
  obtain ⟨number, read⟩ := Option.isSome_iff_exists.1 known
  by_cases plain : n.fraction? = none ∧ n.power? = none
  · refine carried_value_integer lawful ⟨plain.1, plain.2, ?_⟩
    split
    · exact short.le.trans (by decide)
    · exact bits
  have pointed : n.fraction? = none → n.power? ≠ none :=
    fun fraction power => plain ⟨fraction, power⟩
  by_cases large : ∃ p, n.power? = some p ∧ exponentLimit ≤ ofDigits p.digits
  · obtain ⟨p, given, large⟩ := large
    obtain ⟨rfl, zero | down⟩ := number?_large lawful bits given large read
    · exact carried_value_zero zero read
    · have sum : n.exponent = -(ofDigits p.digits : Int) - (n.fraction?.getD []).length := by
        rw [exponent, given, Option.elim_some, Power.value, if_pos down]
      have far : 22 < exponentLimit := by decide
      omega
  · have small : ∀ p ∈ n.power?, ofDigits p.digits < exponentLimit :=
      fun p given => Nat.lt_of_not_le fun more => large ⟨p, given, more⟩
    have real := number?_real lawful bits pointed small
    cases decimal : Binary64.ofDecimal? n.significand n.exponent with
    | none =>
      rw [real, Numeral.real, decimal] at read
      cases read
    | some units =>
      rw [toOption_real decimal] at real
      rcases Nat.eq_zero_or_pos n.significand with zero | positive
      · rw [zero, Binary64.ofDecimal?_zero, Option.some.injEq] at decimal
        rw [← decimal] at real
        exact carried_value_zero zero real
      · obtain ⟨some, printed⟩ := Binary64.shortest_of_ofDecimal? positive short low high decimal
        rw [carried_of_number? real, Number.numeral, Binary64.numeral_value some, printed, value,
          mul_assoc]

end OrderReplay.Json.Numeral

import OrderReplay.Proofs.Json.Grammar
import OrderReplay.Proofs.Json.Quotes
import OrderReplay.Proofs.Json.Tokens

/-! What the scanners of strings and numerals take in, by the grammar. A string that is closed
was spelled by letters, and a number that is complete by a lawful numeral. -/
namespace OrderReplay.Json

namespace Quotation

theorem mem_shortEscapes {mark c : Char} (h : shortEscape? mark = some c) :
    (mark, c) ∈ shortEscapes := by
  unfold shortEscape? at h
  split at h
  next is =>
    obtain rfl := Option.some.inj h
    rcases is with rfl | rfl | rfl <;> simp [shortEscapes]
  next =>
    repeat
      split at h
      · rename_i is
        obtain rfl := Option.some.inj h
        simp [shortEscapes, is]
    cases h

theorem fourDigits_of_unit? {seen : Text} {unit : Nat} (h : unit? seen = some unit) :
    FourDigits seen.reverse unit := by
  unfold unit? at h
  split at h
  next d c b a =>
    simp only [Option.bind_eq_bind, Option.bind_eq_some_iff] at h
    obtain ⟨w, first, x, second, y, third, z, fourth, same⟩ := h
    exact ⟨a, b, c, d, w, x, y, z, rfl, first, second, third, fourth,
      (Option.some.inj same).symm⟩
  next => cases h

/-- What has been read of a letter that is not complete. -/
inductive Begun : Place → Text → Prop where
  | plain : Begun .plain []
  | escape : Begun .escape ['\\']
  | digits {seen} : Begun (.digits none seen) ('\\' :: 'u' :: seen.reverse)
  | pair {first high} (leads : FourDigits first high) (upper : 0xD800 ≤ high ∧ high ≤ 0xDBFF) :
      Begun (.pair high) ('\\' :: 'u' :: first)
  | pairEscape {first high} (leads : FourDigits first high)
      (upper : 0xD800 ≤ high ∧ high ≤ 0xDBFF) :
      Begun (.pairEscape high) ('\\' :: 'u' :: first ++ ['\\'])
  | pairDigits {first high seen} (leads : FourDigits first high)
      (upper : 0xD800 ≤ high ∧ high ≤ 0xDBFF) :
      Begun (.digits (some high) seen) ('\\' :: 'u' :: first ++ '\\' :: 'u' :: seen.reverse)

/-- The text so far goes on with a letter, or it spells one. -/
def Leads (read begun : Text) (next : Scan) : Prop :=
  (Begun next.place begun ∧ next.read = read) ∨
    ∃ letter, Letter begun letter ∧ next = ⟨letter :: read, .plain⟩

theorem digitStep_ok {read seen : Text} {high : Option Nat} {c : Char} {next : Scan}
    (h : digitStep read high seen c = .ok next) :
    next = ⟨read, .digits high (c :: seen)⟩ ∨
      ∃ unit, FourDigits (c :: seen).reverse unit ∧ settle read high unit = .ok next := by
  simp only [digitStep] at h
  split at h
  · cases h
    exact .inl rfl
  · split at h
    next unit found => exact .inr ⟨unit, fourDigits_of_unit? found, h⟩
    next => cases h

theorem leads_of_settle_first {read digits : Text} {unit : Nat} {next : Scan}
    (hex : FourDigits digits unit) (h : settle read none unit = .ok next) :
    Leads read ('\\' :: 'u' :: digits) next := by
  simp only [settle] at h
  split at h
  · cases h
  next low =>
    split at h
    next high =>
      cases h
      refine .inl ⟨.pair hex ?_, rfl⟩
      simpa [isHigh] using high
    next high =>
      cases h
      refine .inr ⟨_, .unit hex ?_, rfl⟩
      simp only [isLow, isHigh, Bool.and_eq_true, decide_eq_true_eq] at low high
      omega

theorem leads_of_settle_second {read first second : Text} {high unit : Nat} {next : Scan}
    (leads : FourDigits first high) (upper : 0xD800 ≤ high ∧ high ≤ 0xDBFF)
    (hex : FourDigits second unit) (h : settle read (some high) unit = .ok next) :
    Leads read ('\\' :: 'u' :: first ++ '\\' :: 'u' :: second) next := by
  simp only [settle] at h
  split at h
  next low =>
    cases h
    refine .inr ⟨_, .pair leads hex upper ?_, rfl⟩
    simpa [isLow] using low
  next => cases h

theorem leads_of_plain {read : Text} {c : Char} {next : Scan}
    (moves : Moves ⟨read, .plain⟩ c next) : Leads read [c] next := by
  simp only [Moves, step] at moves
  split at moves
  · cases moves
  next free =>
  split at moves
  next is =>
    cases moves
    exact .inl ⟨is ▸ .escape, rfl⟩
  next other =>
  split at moves
  · cases moves
  next printed =>
    cases moves
    exact .inr ⟨c, .plain ⟨free, other⟩ (Nat.le_of_not_lt printed), rfl⟩

theorem leads_of_escape {read : Text} {c : Char} {next : Scan}
    (moves : Moves ⟨read, .escape⟩ c next) : Leads read ['\\', c] next := by
  simp only [Moves, step] at moves
  split at moves
  next is =>
    cases moves
    exact .inl ⟨is ▸ .digits, rfl⟩
  next =>
  split at moves
  next meant means =>
    cases moves
    exact .inr ⟨meant, .short (mem_shortEscapes means), rfl⟩
  next => cases moves

/-- A character either goes on with the letter that has begun, or completes it. -/
theorem begun_step {scan next : Scan} {c : Char} {begun : Text} (h : Begun scan.place begun)
    (moves : Moves scan c next) : Leads scan.read (begun ++ [c]) next := by
  obtain ⟨read, place⟩ := scan
  cases h with
  | plain => exact leads_of_plain moves
  | escape => exact leads_of_escape moves
  | pair leads upper =>
    simp only [Moves, step] at moves
    split at moves
    next is =>
      cases moves
      exact .inl ⟨is ▸ .pairEscape leads upper, rfl⟩
    next => cases moves
  | pairEscape leads upper =>
    simp only [Moves, step] at moves
    split at moves
    next is =>
      cases moves
      refine .inl ⟨?_, rfl⟩
      simpa [is] using @Begun.pairDigits _ _ [] leads upper
    next => cases moves
  | @digits seen =>
    obtain ⟨scan, given, same⟩ := map_more moves
    cases same
    have shape : '\\' :: 'u' :: seen.reverse ++ [c] = '\\' :: 'u' :: (c :: seen).reverse := by simp
    rw [shape]
    rcases digitStep_ok given with rfl | ⟨unit, hex, settled⟩
    · exact .inl ⟨.digits, rfl⟩
    · exact leads_of_settle_first hex settled
  | @pairDigits first high seen leads upper =>
    obtain ⟨scan, given, same⟩ := map_more moves
    cases same
    have shape : ('\\' :: 'u' :: first ++ '\\' :: 'u' :: seen.reverse) ++ [c] =
        '\\' :: 'u' :: first ++ '\\' :: 'u' :: (c :: seen).reverse := by simp
    rw [shape]
    rcases digitStep_ok given with rfl | ⟨unit, hex, settled⟩
    · exact .inl ⟨.pairDigits leads upper, rfl⟩
    · exact leads_of_settle_second leads upper hex settled

theorem letters_of_goes {scan last : Scan} {text : Text} (goes : Goes Moves scan text last)
    (closed : last.place = .plain) {begun : Text} (h : Begun scan.place begun) :
    ∃ letters : List (Text × Char), begun ++ text = letters.flatMap Prod.fst ∧
      last.read.reverse = scan.read.reverse ++ letters.map Prod.snd ∧
      ∀ l ∈ letters, Letter l.1 l.2 := by
  induction goes generalizing begun with
  | done =>
    rw [closed] at h
    cases h
    exact ⟨[], rfl, by simp, by simp⟩
  | @more scan mid last c rest moves goes ih =>
    rcases begun_step h moves with ⟨more, same⟩ | ⟨letter, spelled, rfl⟩
    · obtain ⟨letters, text, read, each⟩ := ih closed more
      exact ⟨letters, by simpa using text, same ▸ read, each⟩
    · obtain ⟨letters, text, read, each⟩ := ih closed .plain
      refine ⟨(begun ++ [c], letter) :: letters, ?_, ?_, ?_⟩
      · rw [List.flatMap_cons, ← text]
        simp
      · rw [read]
        simp
      · exact List.forall_mem_cons.2 ⟨spelled, each⟩

end Quotation

namespace Numeral

def DigitsThen (behind : Text → Prop) (text : Text) : Prop :=
  ∃ digits rest, Digits digits ∧ behind rest ∧ text = digits ++ rest

def PowerTail (text : Text) : Prop :=
  ∃ power? : Option Power, (∀ p ∈ power?, p.Lawful) ∧ text = power?.elim [] Power.text

def FractionTail (text : Text) : Prop :=
  ∃ (fraction? : Option Text) (rest : Text), (∀ f ∈ fraction?, Digits f ∧ f ≠ []) ∧
    PowerTail rest ∧ text = fraction?.elim [] ('.' :: ·) ++ rest

/-- What may still follow in a numeral that is to be complete. -/
def Tail : Phase → Text → Prop
  | .sign, text => ∃ c rest, text = c :: rest ∧
      ((c = '0' ∧ FractionTail rest) ∨
        (c ≠ '0' ∧ (Text.digit? c).isSome = true ∧ DigitsThen FractionTail rest))
  | .zero, text => FractionTail text
  | .integer _, text | .long _, text => DigitsThen FractionTail text
  | .point _, text => ∃ c rest, text = c :: rest ∧ (Text.digit? c).isSome = true ∧
      DigitsThen PowerTail rest
  | .fraction _, text | .faint _, text => DigitsThen PowerTail text
  | .mark _, text => ∃ sign digits, sign ∈ [[], ['+'], ['-']] ∧ Digits digits ∧ digits ≠ [] ∧
      text = sign ++ digits
  | .markSign _ _, text => Digits text ∧ text ≠ []
  | .power _ _ _, text | .vanished, text => Digits text

theorem digits_cons {c : Char} {d : Nat} {text : Text} (digit : Text.digit? c = some d)
    (digits : Digits text) : Digits (c :: text) :=
  List.forall_mem_cons.2 ⟨by rw [digit]; rfl, digits⟩

theorem digitsThen_cons {behind : Text → Prop} {c : Char} {d : Nat} {text : Text}
    (digit : Text.digit? c = some d) (h : DigitsThen behind text) :
    DigitsThen behind (c :: text) := by
  obtain ⟨digits, rest, all, more, rfl⟩ := h
  exact ⟨c :: digits, rest, digits_cons digit all, more, rfl⟩

theorem digitsThen_of {behind : Text → Prop} {text : Text} (h : behind text) :
    DigitsThen behind text :=
  ⟨[], text, by simp [Digits], h, rfl⟩

theorem powerTail_nil : PowerTail [] := ⟨none, by simp, rfl⟩

theorem fractionTail_of {text : Text} (h : PowerTail text) : FractionTail text :=
  ⟨none, text, by simp, h, rfl⟩

theorem powerTail_of_mark {s : Scaled} {c : Char} {text : Text} (mark : isMark c = true)
    (h : Tail (.mark s) text) : PowerTail (c :: text) := by
  obtain ⟨sign, digits, signs, all, present, rfl⟩ := h
  have letter : c = if c == 'E' then 'E' else 'e' := by
    simp only [isMark, Bool.or_eq_true, beq_iff_eq] at mark
    rcases mark with rfl | rfl <;> rfl
  simp only [List.mem_cons, List.not_mem_nil, or_false] at signs
  rcases signs with rfl | rfl | rfl
  · exact ⟨some ⟨c == 'E', none, digits⟩, by simp; exact ⟨all, present⟩,
      congrArg (· :: digits) letter⟩
  · exact ⟨some ⟨c == 'E', some false, digits⟩, by simp; exact ⟨all, present⟩,
      congrArg (· :: '+' :: digits) letter⟩
  · exact ⟨some ⟨c == 'E', some true, digits⟩, by simp; exact ⟨all, present⟩,
      congrArg (· :: '-' :: digits) letter⟩

theorem powerTail_of_afterFraction {s : Scaled} {c : Char} {next : Phase} {text : Text}
    (moves : afterFraction s c = some next) (h : Tail next text) : PowerTail (c :: text) := by
  unfold afterFraction at moves
  split at moves
  next mark =>
    cases moves
    exact powerTail_of_mark mark h
  next => cases moves

theorem fractionTail_of_afterInteger {s : Scaled} {c : Char} {next : Phase} {text : Text}
    (moves : afterInteger s c = some next) (h : Tail next text) : FractionTail (c :: text) := by
  unfold afterInteger at moves
  split at moves
  next point =>
    cases moves
    obtain ⟨first, rest, rfl, digit, digits, behind, all, power, rfl⟩ := h
    refine ⟨some (first :: digits), behind, ?_, power, by rw [point]; rfl⟩
    intro f member
    cases member
    exact ⟨List.forall_mem_cons.2 ⟨digit, all⟩, by simp⟩
  next =>
    split at moves
    next mark =>
      cases moves
      exact fractionTail_of (powerTail_of_mark mark h)
    next => cases moves

theorem tail_of_fractionDigit {s : Scaled} {digit : Nat} {text : Text}
    (h : Tail (fractionDigit s digit) text) : DigitsThen PowerTail text := by
  unfold fractionDigit at h
  split at h <;> exact h

theorem tail_of_powerDigit {s : Scaled} {down : Bool} {digits digit : Nat} {next : Phase}
    {text : Text} (moves : (powerDigit s down digits digit).map some = .ok (some next))
    (h : Tail next text) : Digits text := by
  unfold powerDigit at moves
  split at moves
  · cases moves
    exact h
  · split at moves
    · cases moves
    · cases moves
      exact h

theorem eq_zero_of_digit? {c : Char} (h : Text.digit? c = some 0) : c = '0' := by
  unfold Text.digit? at h
  split at h
  next within =>
    have low : '0'.toNat ≤ c.toNat := within.1
    have zero : c.toNat - '0'.toNat = 0 := Option.some.inj h
    rw [← Char.ofNat_toNat c, ← Char.ofNat_toNat '0', show c.toNat = '0'.toNat by omega]
  next => cases h

/-- A phase that goes on has only one to go on to. -/
theorem eq_of_ok_some {phase next : Phase}
    (same : Except.ok (some phase) = (.ok (some next) : Except Flaw _)) : phase = next :=
  Option.some.inj (Except.ok.inj same)

theorem tail_mark {s : Scaled} {c : Char} {next : Phase} {text : Text}
    (moves : Moves (.mark s) c next) (digit : Text.digit? c = none) (h : Tail next text) :
    Tail (.mark s) (c :: text) := by
  simp only [Moves, step, digit] at moves
  split at moves
  next is =>
    obtain rfl := eq_of_ok_some moves
    exact ⟨['+'], text, by simp, h.1, h.2, by rw [is]; rfl⟩
  next =>
  split at moves
  next is =>
    obtain rfl := eq_of_ok_some moves
    exact ⟨['-'], text, by simp, h.1, h.2, by rw [is]; rfl⟩
  next => cases moves

theorem tail_other {phase next : Phase} {c : Char} {text : Text} (moves : Moves phase c next)
    (digit : Text.digit? c = none) (h : Tail next text) : Tail phase (c :: text) := by
  cases phase with
  | mark => exact tail_mark moves digit h
  | sign | point | markSign | power | vanished =>
    simp only [Moves, step, digit] at moves
    cases moves
  | zero =>
    simp only [Moves, step, digit] at moves
    exact fractionTail_of_afterInteger (Except.ok.inj moves) h
  | integer | long =>
    simp only [Moves, step, digit] at moves
    exact digitsThen_of (fractionTail_of_afterInteger (Except.ok.inj moves) h)
  | fraction | faint =>
    simp only [Moves, step, digit] at moves
    exact digitsThen_of (powerTail_of_afterFraction (Except.ok.inj moves) h)

theorem tail_digit {phase next : Phase} {c : Char} {d : Nat} {text : Text}
    (moves : Moves phase c next) (digit : Text.digit? c = some d) (h : Tail next text) :
    Tail phase (c :: text) := by
  have some : (Text.digit? c).isSome = true := by rw [digit]; rfl
  cases phase <;> simp only [Moves, step, digit] at moves
  case sign =>
    cases d with
    | zero =>
      obtain rfl := eq_of_ok_some moves
      exact ⟨c, text, rfl, .inl ⟨eq_zero_of_digit? digit, h⟩⟩
    | succ d =>
      obtain rfl := eq_of_ok_some moves
      refine ⟨c, text, rfl, .inr ⟨?_, some, h⟩⟩
      rintro rfl
      cases digit
  case zero => cases moves
  case integer =>
    split at moves <;> (obtain rfl := eq_of_ok_some moves; exact digitsThen_cons digit h)
  case long | faint =>
    obtain rfl := eq_of_ok_some moves
    exact digitsThen_cons digit h
  case point =>
    obtain rfl := eq_of_ok_some moves
    exact ⟨c, text, rfl, some, tail_of_fractionDigit h⟩
  case fraction =>
    obtain rfl := eq_of_ok_some moves
    exact digitsThen_cons digit (tail_of_fractionDigit h)
  case mark =>
    exact ⟨[], c :: text, by simp, digits_cons digit (tail_of_powerDigit moves h), by simp, rfl⟩
  case markSign => exact ⟨digits_cons digit (tail_of_powerDigit moves h), by simp⟩
  case power => exact digits_cons digit (tail_of_powerDigit moves h)
  case vanished =>
    obtain rfl := eq_of_ok_some moves
    exact digits_cons digit h

/-- What may follow behind a character of a numeral may follow with it before. -/
theorem tail_step {phase next : Phase} {c : Char} {text : Text} (moves : Moves phase c next)
    (h : Tail next text) : Tail phase (c :: text) := by
  cases digit : Text.digit? c with
  | none => exact tail_other moves digit h
  | some d => exact tail_digit moves digit h

theorem tail_of_goes {phase last : Phase} {text : Text} {negative : Bool} {number : Number}
    (goes : Goes Moves phase text last) (finished : finish negative last = .ok number) :
    Tail phase text := by
  induction goes with
  | @done phase =>
    cases phase with
    | sign | point | mark | markSign => cases finished
    | zero => exact fractionTail_of powerTail_nil
    | integer | long => exact digitsThen_of (fractionTail_of powerTail_nil)
    | fraction | faint => exact digitsThen_of powerTail_nil
    | power | vanished => simp [Tail, Digits]
  | more move _ ih => exact tail_step move (ih finished)

theorem exists_lawful_zero (negative : Bool) {text : Text} (tail : FractionTail text) :
    ∃ n : Numeral, n.Lawful ∧ n.text = (if negative then ['-'] else []) ++ '0' :: text := by
  obtain ⟨fraction?, rest, fraction, ⟨power?, power, rfl⟩, rfl⟩ := tail
  refine ⟨⟨negative, ['0'], fraction?, power?⟩, ⟨?_, by simp, by simp, fraction, power⟩, ?_⟩
  · simp [Digits, Text.digit?]
  · simp [Numeral.text]

theorem exists_lawful_integer (negative : Bool) {c : Char} {text : Text} (other : c ≠ '0')
    (digit : (Text.digit? c).isSome = true) (tail : DigitsThen FractionTail text) :
    ∃ n : Numeral, n.Lawful ∧ n.text = (if negative then ['-'] else []) ++ c :: text := by
  obtain ⟨digits, _, all, ⟨fraction?, rest, fraction, ⟨power?, power, rfl⟩, rfl⟩, rfl⟩ := tail
  refine ⟨⟨negative, c :: digits, fraction?, power?⟩, ⟨?_, by simp, ?_, fraction, power⟩, ?_⟩
  · exact List.forall_mem_cons.2 ⟨digit, all⟩
  · simp [other]
  · simp [Numeral.text]

/-- A complete numeral is lawful. -/
theorem lawful_of_goes {c : Char} {negative : Bool} {phase last : Phase} {text : Text}
    {number : Number} (starts : start? c = some (negative, phase))
    (goes : Goes Moves phase text last) (finished : finish negative last = .ok number) :
    ∃ n : Numeral, n.Lawful ∧ n.text = c :: text := by
  have tail := tail_of_goes goes finished
  unfold start? at starts
  split at starts
  next digit =>
    cases starts
    simpa [eq_zero_of_digit? digit] using exists_lawful_zero false tail
  next d other digit =>
    cases starts
    have some : (Text.digit? c).isSome = true := by rw [digit]; rfl
    have differs : c ≠ '0' := by
      rintro rfl
      cases digit
      exact other rfl
    simpa using exists_lawful_integer false differs some tail
  next =>
    split at starts
    next is =>
      cases starts
      obtain ⟨first, rest, rfl, ⟨rfl, tail⟩ | ⟨other, digit, tail⟩⟩ := tail
      · simpa [is] using exists_lawful_zero true tail
      · simpa [is] using exists_lawful_integer true other digit tail
    next => cases starts

end Numeral
end OrderReplay.Json

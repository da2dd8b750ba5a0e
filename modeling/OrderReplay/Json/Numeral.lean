import OrderReplay.Json.Value

/-! Numerals read character by character. Digits are gathered into a significand of 64
bits; a digit that no longer fits counts only by its place, or not at all. -/
namespace OrderReplay.Json.Numeral

def significandLimit : Nat := Nat.pow 2 64
def exponentLimit : Nat := Nat.pow 2 31
def negativeLimit : Nat := Nat.pow 2 63

structure Scaled where
  significand : Nat
  exponent : Int
  deriving DecidableEq, Repr

inductive Phase where
  /-- The sign has been read, and a digit must follow. -/
  | sign
  /-- A zero that begins the numeral; no digit may follow. -/
  | zero
  | integer (significand : Nat)
  /-- An integer whose further digits only raise the exponent. -/
  | long (scaled : Scaled)
  /-- The point has been read, and a digit must follow. -/
  | point (scaled : Scaled)
  | fraction (scaled : Scaled)
  /-- A fraction whose further digits are without effect. -/
  | faint (scaled : Scaled)
  /-- The exponent mark has been read, and a sign or a digit must follow. -/
  | mark (scaled : Scaled)
  | markSign (scaled : Scaled) (down : Bool)
  | power (scaled : Scaled) (down : Bool) (digits : Nat)
  /-- The exponent is so far down, or the significand zero, that only zero is left. -/
  | vanished
  deriving DecidableEq, Repr

def fractionDigit (s : Scaled) (digit : Nat) : Phase :=
  if s.significand * 10 + digit < significandLimit then
    .fraction ⟨s.significand * 10 + digit, s.exponent - 1⟩
  else .faint s

/-- A digit of the exponent. One that leaves 31 bits is refused where the number would
grow without bound, and otherwise leaves zero. -/
def powerDigit (s : Scaled) (down : Bool) (digits digit : Nat) : Except Flaw Phase :=
  if digits * 10 + digit < exponentLimit then .ok (.power s down (digits * 10 + digit))
  else if s.significand ≠ 0 ∧ down = false then .error .malformed
  else .ok .vanished

def isMark (c : Char) : Bool := c == 'e' || c == 'E'

/-- What may stand after a part that is complete: a point where there is none yet, an
exponent where there is none yet, or the end, which is `none`. -/
def afterInteger (s : Scaled) (c : Char) : Option Phase :=
  if c = '.' then some (.point s) else if isMark c then some (.mark s) else none

def afterFraction (s : Scaled) (c : Char) : Option Phase :=
  if isMark c then some (.mark s) else none

/-- The numeral after one more character; `none` if it ended before that character. -/
def step (phase : Phase) (c : Char) : Except Flaw (Option Phase) :=
  match phase, Text.digit? c with
  | .sign, some 0 => .ok (some .zero)
  | .sign, some d => .ok (some (.integer d))
  | .sign, none => .error .malformed
  | .zero, some _ => .error .malformed
  | .zero, none => .ok (afterInteger ⟨0, 0⟩ c)
  | .integer n, some d =>
    if n * 10 + d < significandLimit then .ok (some (.integer (n * 10 + d)))
    else .ok (some (.long ⟨n, 1⟩))
  | .integer n, none => .ok (afterInteger ⟨n, 0⟩ c)
  | .long s, some _ => .ok (some (.long ⟨s.significand, s.exponent + 1⟩))
  | .long s, none => .ok (afterInteger s c)
  | .point s, some d => .ok (some (fractionDigit s d))
  | .point _, none => .error .malformed
  | .fraction s, some d => .ok (some (fractionDigit s d))
  | .fraction s, none => .ok (afterFraction s c)
  | .faint s, some _ => .ok (some (.faint s))
  | .faint s, none => .ok (afterFraction s c)
  | .mark s, some d => (powerDigit s false 0 d).map some
  | .mark s, none =>
    if c = '+' then .ok (some (.markSign s false))
    else if c = '-' then .ok (some (.markSign s true))
    else .error .malformed
  | .markSign s down, some d => (powerDigit s down 0 d).map some
  | .markSign _ _, none => .error .malformed
  | .power s down n, some d => (powerDigit s down n d).map some
  | .power _ _ _, none => .ok none
  | .vanished, some _ => .ok (some .vanished)
  | .vanished, none => .ok none

def real (negative : Bool) (s : Scaled) : Except Flaw Number :=
  (Binary64.ofDecimal? s.significand s.exponent).elim (.error .malformed) fun units =>
    .ok (.real ⟨negative, units⟩)

/-- A numeral without point and exponent. Minus zero is a real, as is a negative one
beyond the signed range. -/
def integer (negative : Bool) (n : Nat) : Except Flaw Number :=
  if negative then
    if n = 0 ∨ negativeLimit < n then real true ⟨n, 0⟩ else .ok (.integer (-(n : Int)))
  else .ok (.integer n)

def finish (negative : Bool) : Phase → Except Flaw Number
  | .sign | .point _ | .mark _ | .markSign _ _ => .error .incomplete
  | .zero => integer negative 0
  | .integer n => integer negative n
  | .long s | .fraction s | .faint s => real negative s
  | .power s down n =>
    real negative ⟨s.significand, if down then s.exponent - n else s.exponent + n⟩
  | .vanished => .ok (.real ⟨negative, 0⟩)

def start? (c : Char) : Option (Bool × Phase) :=
  match Text.digit? c with
  | some 0 => some (false, .zero)
  | some d => some (false, .integer d)
  | none => if c = '-' then some (true, .sign) else none

end OrderReplay.Json.Numeral

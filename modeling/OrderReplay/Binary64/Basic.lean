/-! Finite binary64 numbers as a sign and a magnitude, the magnitude counted in units
of 2^-1074. Every operation is exact integer arithmetic followed by one rounding; the
machine's own floating point is not used. Infinities and NaN are not modelled: an
operation that would overflow has no result. -/
namespace OrderReplay.Binary64

/-- Units in one: 2^1074 of the smallest positive number. -/
def one : Nat := Nat.pow 2 1074

def limit : Nat := Nat.pow 2 2098

/-- The magnitudes that a binary64 number can have: 53 bits, shifted to the left by
what the exponent allows. -/
def Representable (units : Nat) : Prop :=
  units < limit ∧ ∃ mantissa shift, mantissa < Nat.pow 2 53 ∧ units = mantissa * Nat.pow 2 shift

/-- Places by which a magnitude outgrows 53 bits. Neighbouring numbers lie
`2 ^ spacing` units apart. -/
def spacing (units : Nat) : Nat := Nat.log2 units - 52

/-- A quotient rounded to the nearest integer; a tie goes to the even one. -/
def roundDiv (num den : Nat) : Nat :=
  let quotient := num / den
  let rest := num % den
  if 2 * rest < den ∨ (2 * rest = den ∧ quotient % 2 = 0) then quotient else quotient + 1

/-- The magnitude nearest to `num / den` units, ties going to the even mantissa.
A quotient too large to be rounded to a finite number has none. -/
def nearest? (num den : Nat) : Option Nat :=
  let shift := spacing (num / den)
  let units := roundDiv num (den * Nat.pow 2 shift) * Nat.pow 2 shift
  if units < limit then some units else none

def ofNat? (n : Nat) : Option Nat := nearest? (n * one) 1

def mul? (a b : Nat) : Option Nat := nearest? (a * b) one

/-- The rounded quotient. A quotient of finite magnitudes can overflow only when the
divisor is below one, and no divisor here is. -/
def div (a b : Nat) : Nat := (nearest? (a * one) b).getD limit

def powerOfTen (exponent : Nat) : Nat := (ofNat? (Nat.pow 10 exponent)).getD limit

/-- `units` divided by 10^`exponent`: by 10^308 at a time, each quotient rounded on its
own, until what is left of the exponent is at most 308 or the quotient has vanished. -/
def scaleDown (units exponent : Nat) : Nat :=
  if exponent ≤ 308 then div units (powerOfTen exponent)
  else if units = 0 then 0
  else scaleDown (div units (powerOfTen 308)) (exponent - 308)
termination_by exponent

def scale? (units : Nat) : Int → Option Nat
  | .ofNat up =>
    if up ≤ 308 then mul? units (powerOfTen up)
    else if units = 0 then some 0
    else none
  | .negSucc down => some (scaleDown units (down + 1))

/-- The magnitude read from a decimal significand and a power of ten. The significand
is rounded first and the scaled product again, so the result need not be the number
nearest to the decimal. -/
def ofDecimal? (significand : Nat) (exponent : Int) : Option Nat :=
  (ofNat? significand).bind (scale? · exponent)

end OrderReplay.Binary64

namespace OrderReplay

structure Binary64 where
  negative : Bool
  /-- The magnitude in units of 2^-1074. -/
  units : Nat
  deriving DecidableEq, Repr

namespace Binary64

/-- Equality of values: the two zeros are equal. -/
def same (a b : Binary64) : Bool := a.units == b.units && (a.negative == b.negative || a.units == 0)

theorem same_iff (a b : Binary64) :
    a.same b = true ↔ a.units = b.units ∧ (a.negative = b.negative ∨ a.units = 0) := by
  simp [same]

end Binary64
end OrderReplay

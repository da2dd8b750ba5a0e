import OrderReplay.Binary64.Basic

/-! The fewest decimal digits that read back as a given binary64 magnitude. For one
digit, two digits, and so on, the two neighbours of the magnitude on that decimal grid
are tested exactly against the interval of reals that round to it. -/
namespace OrderReplay.Binary64

structure Decimal where
  digits : Nat
  exponent : Int
  deriving DecidableEq, Repr

/-- A quarter of a unit, the grain in which both ends of the rounding interval are
whole numbers. -/
structure Interval where
  least : Nat
  greatest : Nat
  /-- The ends belong to the interval when the mantissa is even, as ties go there. -/
  closed : Bool

/-- The reals that round to a positive magnitude, in quarters of a unit: half a spacing
on either side, a quarter below where the spacing changes. -/
def interval (units : Nat) : Interval :=
  let shift := spacing units
  let mantissa := units / Nat.pow 2 shift
  let below := if mantissa = Nat.pow 2 52 ∧ shift ≠ 0 then Nat.pow 2 shift else 2 * Nat.pow 2 shift
  ⟨4 * units - below, 4 * units + 2 * Nat.pow 2 shift, mantissa % 2 = 0⟩

def quarters : Nat := 4 * one

def powerFraction : Int → Nat × Nat
  | .ofNat up => (Nat.pow 10 up, 1)
  | .negSucc down => (1, Nat.pow 10 (down + 1))

/-- Whether a decimal reads back as the magnitude that the interval belongs to. -/
def Interval.holds (i : Interval) (d : Decimal) : Bool :=
  let (num, den) := powerFraction d.exponent
  let value := d.digits * num * quarters
  if i.closed then i.least * den ≤ value && value ≤ i.greatest * den
  else i.least * den < value && value < i.greatest * den

/-- The place of the first digit of `units / one`: the value is at least this power of
ten, and less than the next. -/
def firstPlace (units : Nat) : Int :=
  if one ≤ units then (((Nat.toDigits 10 (units / one)).length - 1 : Nat) : Int)
  else
    let below := (one + units - 1) / units
    Int.negOfNat (Nat.toDigits 10 (below - 1)).length

/-- The better of the two neighbours on the grid with `count` digits, if one of them
reads back. Of two the nearer is taken, and of two equally near ones the even one. -/
def onGrid? (units count : Nat) : Option Decimal :=
  let exponent := firstPlace units - (count - 1)
  let (num, den) := powerFraction exponent
  let grain := num * one
  let low := units * den / grain
  let rest := units * den % grain
  let lower : Decimal := ⟨low, exponent⟩
  let upper : Decimal := ⟨low + 1, exponent⟩
  let lowerNearer := 2 * rest < grain || (2 * rest == grain && low % 2 == 0)
  match (interval units).holds lower, (interval units).holds upper with
  | true, true => some (if lowerNearer then lower else upper)
  | true, false => some lower
  | false, true => some upper
  | false, false => none

def Decimal.trimZeros (d : Decimal) : Nat → Decimal
  | 0 => d
  | fuel + 1 =>
    if d.digits ≠ 0 ∧ d.digits % 10 = 0 then
      Decimal.trimZeros ⟨d.digits / 10, d.exponent + 1⟩ fuel
    else d

/-- The shortest decimal of a positive magnitude. Seventeen digits always suffice. -/
def shortest (units : Nat) : Decimal :=
  let found := (List.range 17).findSome? fun more => onGrid? units (more + 1)
  (found.getD ⟨0, 0⟩).trimZeros 17

end OrderReplay.Binary64

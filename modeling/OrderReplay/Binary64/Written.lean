import OrderReplay.Binary64.Shortest
import OrderReplay.Text.Basic

/-! The written form of a binary64 number: its shortest digits, in places or with a
power of ten. -/
namespace OrderReplay.Binary64

structure Style where
  leastPlace : Int
  greatestPlace : Int
  /-- Marks the power of ten. -/
  mark : Char

/-- Places are used from 0.00001 up to, but not including, 10^16. A number in places
always has a point; one with a power of ten has it only if more than one digit is
written, and its power always shows a sign. -/
def style : Style := ⟨-5, 15, 'e'⟩

def inPlaces (digits : Text) (place : Int) : Text :=
  match place with
  | .negSucc below => ['0', '.'] ++ List.replicate below '0' ++ digits
  | .ofNat above =>
    let whole := digits.take (above + 1) ++ List.replicate (above + 1 - digits.length) '0'
    match digits.drop (above + 1) with
    | [] => whole ++ ['.', '0']
    | fraction => whole ++ '.' :: fraction

def withPower (digits : Text) (place : Int) : Text :=
  let head := match digits with
    | first :: second :: rest => first :: '.' :: second :: rest
    | short => short
  let sign := if place < 0 then '-' else '+'
  head ++ style.mark :: sign :: Text.ofNat place.natAbs

def magnitude (units : Nat) : Text :=
  if units = 0 then ['0', '.', '0']
  else
    let d := shortest units
    let digits := Text.ofNat d.digits
    let place := d.exponent + ((digits.length : Int) - 1)
    if style.leastPlace ≤ place ∧ place ≤ style.greatestPlace then inPlaces digits place
    else withPower digits place

def written (x : Binary64) : Text :=
  if x.negative then '-' :: magnitude x.units else magnitude x.units

end OrderReplay.Binary64

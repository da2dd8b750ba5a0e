import OrderReplay.Text.Utf8

/-! Header fields as octets: one line each, a name and a value with a colon between
them, up to an empty line. Lines end in a line feed, with or without a carriage return
before it, and none goes on in the next. -/
namespace OrderReplay.Http

abbrev Octets := List UInt8

inductive WireFlaw where
  /-- More octets could make it one. -/
  | unfinished
  | malformed
  deriving DecidableEq, Repr

abbrev HeaderField := Octets × Octets

def lowerOctet (octet : UInt8) : UInt8 := if 65 ≤ octet && octet ≤ 90 then octet + 32 else octet

/-- Octets of a value: all but the controls, of which only the tab may be there. -/
def isValueOctet (octet : UInt8) : Bool := octet == 9 || (32 ≤ octet && octet ≠ 127)

def isNameOctet (octet : UInt8) : Bool :=
  let c := Char.ofNat octet.toNat
  (97 ≤ lowerOctet octet && lowerOctet octet ≤ 122) || (48 ≤ octet && octet ≤ 57) ||
    c ∈ ['!', '#', '$', '%', '&', '\'', '*', '+', '-', '.', '^', '_', '\x60', '|', '~']

def isBlankOctet (octet : UInt8) : Bool := octet == 32 || octet == 9

def trimValue (value : Octets) : Octets :=
  ((value.dropWhile isBlankOctet).reverse.dropWhile isBlankOctet).reverse

def expect : Octets → Octets → Except WireFlaw Octets
  | [], octets => .ok octets
  | _, [] => .error .unfinished
  | a :: wanted, b :: rest => if a = b then expect wanted rest else .error .malformed

def fieldName : Octets → Except WireFlaw (Octets × Octets)
  | [] => .error .unfinished
  | octet :: rest =>
    if octet = 58 then .ok ([], rest)
    else if isNameOctet octet then (fieldName rest).map fun (name, rest) => (octet :: name, rest)
    else .error .malformed

def fieldValue : Octets → Except WireFlaw (Octets × Octets)
  | [] | [13] => .error .unfinished
  | 10 :: rest | 13 :: 10 :: rest => .ok ([], rest)
  | octet :: rest =>
    if isValueOctet octet then (fieldValue rest).map fun (value, rest) => (octet :: value, rest)
    else .error .malformed

/-- Fields up to an empty line, at most so many, and what follows that line. -/
def fields : Nat → Octets → Except WireFlaw (List HeaderField × Octets)
  | _, [] | _, [13] => .error .unfinished
  | _, 10 :: rest | _, 13 :: 10 :: rest => .ok ([], rest)
  | 0, _ => .error .malformed
  | limit + 1, octets => do
    let (name, rest) ← fieldName octets
    if name.isEmpty then .error .malformed
    let (value, rest) ← fieldValue rest
    let (others, rest) ← fields limit rest
    .ok ((name, trimValue value) :: others, rest)

def fieldLimit : Nat := 100

/-- A value made of visible ASCII characters, spaces and tabs. -/
def plainText? (value : Octets) : Option Text :=
  if value.all fun octet => octet == 9 || (32 ≤ octet && octet < 127) then
    some (value.map fun octet => Char.ofNat octet.toNat)
  else none

def valuesOf (name : Text) (list : List HeaderField) : List Octets :=
  (list.filter fun (sent, _) => sent.map lowerOctet == Text.Utf8.encode name).map
    fun (_, value) => value

end OrderReplay.Http

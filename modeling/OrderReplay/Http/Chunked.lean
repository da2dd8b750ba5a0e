import OrderReplay.Http.Fields

/-! Bodies sent in chunks: each has its size in hexadecimal on a line of its own, and one
of size zero ends them. Fields may follow it. What is not sent exactly so is no body, but
until it comes to its end more octets could make it one. -/
namespace OrderReplay.Http.Chunked

def hexValue? (octet : UInt8) : Option Nat := Text.hexDigit? (Char.ofNat octet.toNat)

def sizeLimit : Nat := Nat.pow 2 64

def lineBreak : Octets := [13, 10]

/-- What follows the line of a size, on which blanks and extensions may stand behind it. -/
def lineEnd (octets : Octets) : Except WireFlaw Octets :=
  match octets.dropWhile isBlankOctet with
  | 59 :: extension =>
    if 10 ∈ extension.takeWhile (· ≠ 13) then .error .malformed
    else expect lineBreak (extension.dropWhile (· ≠ 13))
  | octets => expect lineBreak octets

def size : Octets → Except WireFlaw (Nat × Octets)
  | [] => .error .unfinished
  | octets => do
    let digits := octets.takeWhile fun octet => (hexValue? octet).isSome
    let size := digits.foldl (fun total octet => total * 16 + (hexValue? octet).getD 0) 0
    if digits.isEmpty || sizeLimit ≤ size then .error .malformed
    else .ok (size, ← lineEnd (octets.drop digits.length))

def trailerLine (octets : Octets) : Except WireFlaw (Octets × Octets) :=
  let text := octets.takeWhile (· ≠ 13)
  (expect lineBreak (octets.drop text.length)).map fun rest => (text ++ lineBreak, rest)

/-- Lines up to an empty one: how many they are, and all of them together with it. -/
def trailer : Nat → Octets → Except WireFlaw (Nat × Octets)
  | _, 13 :: rest => (expect [10] rest).map fun _ => (0, lineBreak)
  | 0, octets => do
    let _ ← trailerLine octets
    .error .malformed
  | limit + 1, octets => do
    let (line, rest) ← trailerLine octets
    let (count, others) ← trailer limit rest
    .ok (count + 1, line ++ others)

def ending (octets : Octets) : Except WireFlaw Unit := do
  let (count, lines) ← trailer fieldLimit octets
  if count ≠ 0 && !(fields count lines).toOption.isSome then .error .malformed

/-- The chunks, of which each takes octets, so that their number is bounded. -/
def chunks : Nat → Octets → Except WireFlaw Octets
  | 0, _ => .error .unfinished
  | fuel + 1, octets => do
    let (size, rest) ← size octets
    if size = 0 then
      ending rest
      .ok []
    else
      let others ← expect lineBreak (rest.drop size)
      .ok (rest.take size ++ (← chunks fuel others))

def decode (octets : Octets) : Except WireFlaw Octets := chunks (octets.length + 1) octets

end OrderReplay.Http.Chunked

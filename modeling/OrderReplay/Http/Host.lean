import OrderReplay.Http.Name
import OrderReplay.Http.Percent

/-! Hosts of addresses: names in their ASCII form, and network addresses of both versions
in any of their spellings. -/
namespace OrderReplay.Http

inductive Host where
  | name (text : Text)
  | v4 (address : Nat)
  | v6 (groups : List Nat)
  deriving DecidableEq, Repr

namespace Host

def forbiddenForeign (c : Char) : Bool :=
  c ∈ ['\x00', '\t', '\n', '\r', ' ', '#', '/', ':', '<', '>', '?', '@', '[', '\\', ']', '^', '|']

def digits? (base : Nat) (text : Text) : Option Nat :=
  text.foldl (fun total c => do
    let total ← total
    let digit ← Text.hexDigit? c
    if digit < base then some (total * base + digit) else none) (some 0)

/-- A part of a version 4 address: decimal, octal behind a zero, or hexadecimal behind
a zero and an `x`. A bare prefix is zero. -/
def v4Part? : Text → Option Nat
  | [] => none
  | '0' :: 'x' :: rest | '0' :: 'X' :: rest => digits? 16 rest
  | '0' :: c :: rest => digits? 8 (c :: rest)
  | text => digits? 10 text

def v4Parts (text : Text) : List Text :=
  match (Text.pieces '.' text).reverse with
  | [] :: before :: others => (before :: others).reverse
  | parts => parts.reverse

/-- Whether a name must be read as a version 4 address: its last part is a number. -/
def endsInNumber (text : Text) : Bool :=
  match (v4Parts text).getLast? with
  | none => false
  | some last => (last ≠ [] && last.all fun c => (Text.digit? c).isSome) || (v4Part? last).isSome

/-- Each part but the last is an octet; the last fills the octets that remain. -/
def v4? (text : Text) : Option Nat := do
  let parts := v4Parts text
  if 4 < parts.length then none
  let numbers ← parts.mapM v4Part?
  match numbers.reverse with
  | [] => none
  | last :: others =>
    let octets := others.reverse
    if octets.any (255 < ·) then none
    if Nat.pow 256 (4 - octets.length) ≤ last then none
    let lead := octets.foldl (fun total octet => total * 256 + octet) 0
    some (lead * Nat.pow 256 (4 - octets.length) + last)

def octet? (text : Text) : Option Nat := do
  let n ← digits? 10 text
  if text = [] ∨ 255 < n ∨ Text.ofNat n ≠ text then none
  some n

def dotted? (text : Text) : Option (List Nat) := do
  match ← (Text.pieces '.' text).mapM octet? with
  | [a, b, c, d] => some [a * 256 + b, c * 256 + d]
  | _ => none

def group? (text : Text) : Option Nat :=
  if text = [] ∨ 4 < text.length then none else digits? 16 text

/-- Groups between colons; only the last may be given as octets between dots. -/
def groups? (text : Text) (mayBeDotted : Bool) : Option (List Nat) :=
  if text = [] then some []
  else
    let pieces := Text.pieces ':' text
    match mayBeDotted, pieces.getLast? with
    | true, some last =>
      if '.' ∈ last then do
        let front ← pieces.dropLast.mapM group?
        some (front ++ (← dotted? last))
      else pieces.mapM group?
    | _, _ => pieces.mapM group?

def elision? : Text → Option (Text × Text)
  | ':' :: ':' :: rest => some ([], rest)
  | c :: rest => (elision? rest).map fun (before, after) => (c :: before, after)
  | [] => none

/-- Eight groups, or fewer with one double colon for the zeros that are missing. -/
def v6? (text : Text) : Option (List Nat) :=
  match elision? text with
  | none => do
    let groups ← groups? text true
    if groups.length = 8 then some groups else none
  | some (before, after) => do
    let front ← groups? before false
    let back ← groups? after true
    if front.length + back.length ≤ 7 then
      some (front ++ List.replicate (8 - front.length - back.length) 0 ++ back)
    else none

def bracketed? (text : Text) : Option Host :=
  match text.getLast? with
  | some ']' => (v6? (text.drop 1).dropLast).map .v6
  | _ => none

def ofText? (text : Text) : Option Host :=
  if text.head? = some '[' then bracketed? text
  else do
    let name ← Name.ascii? (Text.Utf8.decode (Percent.decode text))
    if name = [] then none
    else if endsInNumber name then (v4? name).map .v4
    else some (.name name)

def ofForeign? (text : Text) : Option Host :=
  if text.head? = some '[' then bracketed? text
  else if text.any forbiddenForeign then none
  else some (.name (Percent.encode Percent.control text))

def v4Shown (address : Nat) : Text :=
  let octet (place : Nat) : Text := Text.ofNat (address / Nat.pow 256 place % 256)
  octet 3 ++ '.' :: octet 2 ++ '.' :: octet 1 ++ '.' :: octet 0

def zeros : List Nat → Nat
  | 0 :: rest => zeros rest + 1
  | _ => 0

def longestZeros : List Nat → Nat × Nat
  | [] => (0, 0)
  | g :: rest =>
    let here := zeros (g :: rest)
    let (start, length) := longestZeros rest
    if length ≤ here then (0, here) else (start + 1, length)

/-- Groups in lower-case hexadecimal, the first longest run of at least two zeros
replaced by a double colon. -/
def v6Shown (groups : List Nat) : Text :=
  let shown (gs : List Nat) : Text := [':'].intercalate (gs.map (Nat.toDigits 16))
  let (start, length) := longestZeros groups
  if length < 2 then shown groups
  else shown (groups.take start) ++ [':', ':'] ++ shown (groups.drop (start + length))

def shown : Host → Text
  | .name text => text
  | .v4 address => v4Shown address
  | .v6 groups => '[' :: v6Shown groups ++ [']']

end Host
end OrderReplay.Http

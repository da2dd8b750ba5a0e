import OrderReplay.Text.Basic

/-! UTF-8 octets read as text, octet by octet. What is not well-formed is not an
error: every maximal run of octets that begins a character without completing it,
and every octet that can begin none, becomes one replacement character. -/
namespace OrderReplay.Text.Utf8

def replacement : Char := '\uFFFD'

/-- A character that has begun: how many octets it still owes, between which bounds
the next of them must lie, and the bits read so far. -/
structure Partial where
  owed : Nat
  least : Nat
  greatest : Nat
  bits : Nat
  deriving DecidableEq, Repr

/-- The character that an octet begins. The bounds of the second octet exclude
overlong forms, surrogates, and values beyond the last code point. -/
def lead? (octet : Nat) : Option Partial :=
  if 0xC2 ≤ octet ∧ octet ≤ 0xDF then some ⟨1, 0x80, 0xBF, octet - 0xC0⟩
  else if octet = 0xE0 then some ⟨2, 0xA0, 0xBF, 0⟩
  else if octet = 0xED then some ⟨2, 0x80, 0x9F, 0xD⟩
  else if 0xE1 ≤ octet ∧ octet ≤ 0xEF then some ⟨2, 0x80, 0xBF, octet - 0xE0⟩
  else if octet = 0xF0 then some ⟨3, 0x90, 0xBF, 0⟩
  else if 0xF1 ≤ octet ∧ octet ≤ 0xF3 then some ⟨3, 0x80, 0xBF, octet - 0xF0⟩
  else if octet = 0xF4 then some ⟨3, 0x80, 0x8F, 4⟩
  else none

def start (octet : Nat) : Text × Option Partial :=
  if octet < 0x80 then ([Char.ofNat octet], none)
  else match lead? octet with
    | some begun => ([], some begun)
    | none => ([replacement], none)

/-- An octet with a character begun or not: the characters it settles, and the
character left open. An octet that does not continue the open character ends it as a
replacement and is read anew. -/
def step (open? : Option Partial) (octet : Nat) : Text × Option Partial :=
  match open? with
  | none => start octet
  | some begun =>
    if begun.least ≤ octet ∧ octet ≤ begun.greatest then
      let bits := begun.bits * 64 + (octet - 0x80)
      if begun.owed ≤ 1 then ([Char.ofNat bits], none)
      else ([], some ⟨begun.owed - 1, 0x80, 0xBF, bits⟩)
    else
      let (settled, next) := start octet
      (replacement :: settled, next)

def decodeFrom (open? : Option Partial) : List UInt8 → Text
  | [] => if open?.isSome then [replacement] else []
  | octet :: rest =>
    let (settled, next) := step open? octet.toNat
    settled ++ decodeFrom next rest

def decode (octets : List UInt8) : Text := decodeFrom none octets

def encode (text : Text) : List UInt8 := text.flatMap String.utf8EncodeChar

end OrderReplay.Text.Utf8

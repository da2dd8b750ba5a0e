import OrderReplay.Json.Value

/-! Strings in quotes: how they are written, and how they are read character by
character from behind the opening quote. -/
namespace OrderReplay.Json.Quotation

def fourDigits (n : Nat) : Text :=
  let digits := Nat.toDigits 16 n
  List.replicate (4 - digits.length) '0' ++ digits

/-- What is written for a character: an escape for the quote, the backslash and the
controls, a short one where there is one; itself for every other. -/
def escape (c : Char) : Text :=
  if c = '"' then ['\\', '"']
  else if c = '\\' then ['\\', '\\']
  else if c = '\x08' then ['\\', 'b']
  else if c = '\t' then ['\\', 't']
  else if c = '\n' then ['\\', 'n']
  else if c = '\x0c' then ['\\', 'f']
  else if c = '\r' then ['\\', 'r']
  else if c.toNat < 0x20 then ['\\', 'u'] ++ fourDigits c.toNat
  else [c]

def render (text : Text) : Text := '"' :: text.flatMap escape ++ ['"']

inductive Place where
  | plain
  /-- Behind a backslash. -/
  | escape
  /-- Within the digits of a `u` escape; `high` is the surrogate that it must complete. -/
  | digits (high : Option Nat) (read : Text)
  /-- Behind a high surrogate, where a second escape must begin. -/
  | pair (high : Nat)
  | pairEscape (high : Nat)
  deriving DecidableEq, Repr

structure Scan where
  read : Text
  place : Place
  deriving DecidableEq, Repr

def Scan.start : Scan := ⟨[], .plain⟩

inductive Progress where
  | more (scan : Scan)
  | closed (text : Text)
  deriving Repr

def isHigh (unit : Nat) : Bool := 0xD800 ≤ unit && unit ≤ 0xDBFF
def isLow (unit : Nat) : Bool := 0xDC00 ≤ unit && unit ≤ 0xDFFF

def paired (high low : Nat) : Char :=
  Char.ofNat (0x10000 + (high - 0xD800) * 0x400 + (low - 0xDC00))

def unit? : Text → Option Nat
  | [d, c, b, a] => do
    let a ← Text.hexDigit? a
    let b ← Text.hexDigit? b
    let c ← Text.hexDigit? c
    let d ← Text.hexDigit? d
    pure (((a * 16 + b) * 16 + c) * 16 + d)
  | _ => none

/-- A complete `u` escape. Surrogates are accepted in pairs only. -/
def settle (read : Text) (high : Option Nat) (unit : Nat) : Except Flaw Scan :=
  match high with
  | some high =>
    if isLow unit then .ok ⟨paired high unit :: read, .plain⟩ else .error .malformed
  | none =>
    if isLow unit then .error .malformed
    else if isHigh unit then .ok ⟨read, .pair unit⟩
    else .ok ⟨Char.ofNat unit :: read, .plain⟩

def width : Text → Nat
  | [] => 0
  | c :: rest => c.utf8Size + width rest

/-- One more character within the digits of an escape. They are judged only when four
octets are there, so a text that ends before that is incomplete and not malformed. -/
def digitStep (read : Text) (high : Option Nat) (seen : Text) (c : Char) : Except Flaw Scan :=
  let seen := c :: seen
  if width seen < 4 then .ok ⟨read, .digits high seen⟩
  else match unit? seen with
    | some unit => settle read high unit
    | none => .error .malformed

def shortEscape? (c : Char) : Option Char :=
  if c = '"' ∨ c = '\\' ∨ c = '/' then some c
  else if c = 'b' then some '\x08'
  else if c = 'f' then some '\x0c'
  else if c = 'n' then some '\n'
  else if c = 'r' then some '\r'
  else if c = 't' then some '\t'
  else none

def step (scan : Scan) (c : Char) : Except Flaw Progress :=
  match scan.place with
  | .plain =>
    if c = '"' then .ok (.closed scan.read.reverse)
    else if c = '\\' then .ok (.more ⟨scan.read, .escape⟩)
    else if c.toNat < 0x20 then .error .malformed
    else .ok (.more ⟨c :: scan.read, .plain⟩)
  | .escape =>
    if c = 'u' then .ok (.more ⟨scan.read, .digits none []⟩)
    else match shortEscape? c with
      | some meant => .ok (.more ⟨meant :: scan.read, .plain⟩)
      | none => .error .malformed
  | .digits high seen => (digitStep scan.read high seen c).map .more
  | .pair high =>
    if c = '\\' then .ok (.more ⟨scan.read, .pairEscape high⟩) else .error .malformed
  | .pairEscape high =>
    if c = 'u' then .ok (.more ⟨scan.read, .digits (some high) []⟩) else .error .malformed

end OrderReplay.Json.Quotation

import OrderReplay.Text.Utf8

/-! Percent encoding: characters that may not stand in a part of an address are given
by their octets, each as two hexadecimal digits behind a percent sign. -/
namespace OrderReplay.Http.Percent

abbrev Reserved := Char → Bool

/-- Controls, and everything that is not ASCII. Each part encodes these and more. -/
def control : Reserved := fun c => c.toNat < 0x20 || 0x7E < c.toNat

def fragment : Reserved := fun c => control c || c ∈ [' ', '"', '<', '>', '\x60']

/-- The percent sign is never encoded, so what is encoded already stays as it is. -/
def path : Reserved := fun c => fragment c || c ∈ ['#', '?', '\x7b', '\x7d']

def query : Reserved := fun c => control c || c ∈ [' ', '"', '#', '<', '>']

def webQuery : Reserved := fun c => query c || c == '\''

def userinfo : Reserved := fun c =>
  path c || c ∈ ['/', ':', ';', '=', '@', '[', '\\', ']', '^', '|']

def octetDigits (octet : UInt8) : Text :=
  let digit (n : Nat) : Char := if n < 10 then Char.ofNat (48 + n) else Char.ofNat (55 + n)
  [digit (octet.toNat / 16), digit (octet.toNat % 16)]

def encodeChar (reserved : Reserved) (c : Char) : Text :=
  if reserved c then (Text.Utf8.encode [c]).flatMap fun octet => '%' :: octetDigits octet else [c]

def encode (reserved : Reserved) (text : Text) : Text := text.flatMap (encodeChar reserved)

/-- The octets of a text, with those that it gives by their digits. A percent sign
without two digits behind it stands for itself. -/
def decode : Text → List UInt8
  | '%' :: a :: b :: rest =>
    match Text.hexDigit? a, Text.hexDigit? b with
    | some high, some low => UInt8.ofNat (high * 16 + low) :: decode rest
    | _, _ => Text.Utf8.encode ['%'] ++ decode (a :: b :: rest)
  | c :: rest => Text.Utf8.encode [c] ++ decode rest
  | [] => []

end OrderReplay.Http.Percent

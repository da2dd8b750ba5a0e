/-! Texts as lists of characters, and the few operations on them that are not
already operations on lists. A text never holds undecoded bytes: decoding is
`Text.Utf8`. -/
namespace OrderReplay

abbrev Text := List Char

namespace Text

def occurs (needle : Text) : Text → Bool
  | [] => needle.isEmpty
  | c :: rest => needle.isPrefixOf (c :: rest) || occurs needle rest

theorem occurs_iff (needle text : Text) : occurs needle text = true ↔ needle <:+: text := by
  induction text with
  | nil => simp [occurs]
  | cons c rest ih => simp [occurs, ih, List.infix_cons_iff]

/-- The text cut at every `mark`; there is one piece more than there are marks. -/
def pieces (mark : Char) : Text → List Text
  | [] => [[]]
  | c :: rest =>
    if c = mark then [] :: pieces mark rest
    else match pieces mark rest with
      | [] => [[c]]
      | piece :: others => (c :: piece) :: others

/-- The text up to the first `mark`, and what follows that mark if there is one. -/
def cut (mark : Char) (text : Text) : Text × Option Text :=
  match text.dropWhile (· ≠ mark) with
  | [] => (text, none)
  | _ :: after => (text.takeWhile (· ≠ mark), some after)

def trimEnd (mark : Char) : Text → Text
  | [] => []
  | c :: rest =>
    match trimEnd mark rest with
    | [] => if c = mark then [] else [c]
    | kept => c :: kept

/-- Whether a character has the Unicode property White_Space. -/
def isBlank (c : Char) : Bool :=
  let n := c.toNat
  (9 ≤ n && n ≤ 13) || n == 32 || n == 0x85 || n == 0xA0 || n == 0x1680 ||
    (0x2000 ≤ n && n ≤ 0x200A) || n == 0x2028 || n == 0x2029 || n == 0x202F ||
    n == 0x205F || n == 0x3000

def trim (text : Text) : Text :=
  ((text.dropWhile isBlank).reverse.dropWhile isBlank).reverse

def ofNat (n : Nat) : Text := Nat.toDigits 10 n

/-- The value of a decimal digit. Only the ten ASCII digits have one. -/
def digit? (c : Char) : Option Nat :=
  if '0' ≤ c ∧ c ≤ '9' then some (c.toNat - '0'.toNat) else none

def hexDigit? (c : Char) : Option Nat :=
  if '0' ≤ c ∧ c ≤ '9' then some (c.toNat - '0'.toNat)
  else if 'a' ≤ c ∧ c ≤ 'f' then some (c.toNat - 'a'.toNat + 10)
  else if 'A' ≤ c ∧ c ≤ 'F' then some (c.toNat - 'A'.toNat + 10)
  else none

def lower (text : Text) : Text := text.map Char.toLower

abbrev Ranges := List (Nat × Nat)

def Ranges.holds (ranges : Ranges) (c : Char) : Bool :=
  ranges.any fun (least, greatest) => least ≤ c.toNat && c.toNat ≤ greatest

end Text
end OrderReplay

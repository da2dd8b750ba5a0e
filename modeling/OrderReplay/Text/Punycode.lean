import OrderReplay.Text.Basic

/-! Texts of any characters written in letters, digits and hyphens alone. The characters
that are ASCII come first; the others follow as numbers, which tell in increasing order
what is inserted, and where. A number ends with its first digit below a threshold; the
thresholds adapt to the size of the numbers before it. -/
namespace OrderReplay.Text.Punycode

def isBasic (c : Char) : Bool := c.toNat < 0x80

/-- There are 36 digits: the letters, and behind them the decimal digits. -/
def digit (n : Nat) : Char := if n < 26 then Char.ofNat (97 + n) else Char.ofNat (22 + n)

def value? (c : Char) : Option Nat :=
  if 'a' ≤ c ∧ c ≤ 'z' then some (c.toNat - 97)
  else if 'A' ≤ c ∧ c ≤ 'Z' then some (c.toNat - 65)
  else (digit? c).map (· + 26)

def threshold (bias place : Nat) : Nat :=
  if place ≤ bias then 1 else if bias + 26 ≤ place then 26 else place - bias

theorem threshold_pos (bias place : Nat) : 0 < threshold bias place := by
  unfold threshold
  repeat' split
  all_goals omega

def firstBias : Nat := 72

/-- The bias for a number below 456, behind so many steps of reducing it. -/
def settledBias (delta steps : Nat) : Nat := 36 * steps + 36 * delta / (delta + 38)

def reducedBias (delta steps : Nat) : Nat :=
  if 455 < delta then reducedBias (delta / 35) (steps + 1) else settledBias delta steps
termination_by delta
decreasing_by omega

def bias (delta count : Nat) (isFirst : Bool) : Nat :=
  let delta := if isFirst then delta / 700 else delta / 2
  reducedBias (delta + delta / count) 0

def digits (bias place n : Nat) : Text :=
  let least := threshold bias place
  if n < least then [digit n]
  else
    digit (least + (n - least) % (36 - least)) ::
      digits bias (place + 36) ((n - least) / (36 - least))
termination_by n
decreasing_by
  have positive := threshold_pos bias place
  have := Nat.div_le_self (n - threshold bias place) (36 - threshold bias place)
  omega

/-! ## Writing -/

structure Writing where
  written : Text
  /-- Places passed since the last insertion. -/
  passed : Nat
  bias : Nat
  /-- Characters that a reader has by now. -/
  count : Nat
  isFirst : Bool
  deriving DecidableEq, Repr

def Writing.pass (codePoint : Nat) (w : Writing) (c : Char) : Writing :=
  if c.toNat < codePoint then { w with passed := w.passed + 1 }
  else if c.toNat = codePoint then
    ⟨w.written ++ digits w.bias 36 w.passed, 0,
      Punycode.bias w.passed (w.count + 1) w.isFirst, w.count + 1, false⟩
  else w

def Writing.insert (text : Text) (w : Writing) (below : Nat) : List Nat → Writing
  | [] => w
  | codePoint :: rest =>
    let start := { w with passed := w.passed + (codePoint - below) * (w.count + 1) }
    let w := text.foldl (Writing.pass codePoint) start
    Writing.insert text { w with passed := w.passed + 1 } (codePoint + 1) rest

def encode (text : Text) : Text :=
  let basic := text.filter isBasic
  let others := ((text.filter (!isBasic ·)).map Char.toNat).eraseDups.mergeSort
  let head := if basic = [] then [] else basic ++ ['-']
  head ++ (Writing.insert text ⟨[], 0, firstBias, basic.length, true⟩ 0x80 others).written

/-! ## Reading -/

def limit : Nat := Nat.pow 2 32

def number? (bias place weight total : Nat) : Text → Option (Nat × Text)
  | [] => none
  | c :: rest => do
    let value ← value? c
    let total := total + value * weight
    let least := threshold bias place
    if limit ≤ total then none
    else if value < least then some (total, rest)
    else if limit ≤ weight * (36 - least) then none
    else number? bias (place + 36) (weight * (36 - least)) total rest

/-- Inserts what numbers tell into a text, from a code point and a place on. Every number
takes a digit at least, so that the length of the text bounds them. -/
def insertions? : Nat → Nat → Nat → Nat → Text → Text → Option Text
  | _, _, _, _, text, [] => some text
  | 0, _, _, _, _, _ => none
  | fuel + 1, codePoint, place, bias, text, rest => do
    let (total, rest) ← number? bias 36 1 place rest
    let count := text.length + 1
    let codePoint := codePoint + total / count
    if 0x110000 ≤ codePoint ∨ (0xD800 ≤ codePoint ∧ codePoint < 0xE000) then none
    let here := total % count
    insertions? fuel codePoint (here + 1) (Punycode.bias (total - place) count (place == 0))
      (text.take here ++ Char.ofNat codePoint :: text.drop here) rest

def halves (text : Text) : Text × Text :=
  if '-' ∈ text then
    let behind := (text.reverse.takeWhile (· ≠ '-')).reverse
    (text.take (text.length - behind.length - 1), behind)
  else ([], text)

def decode? (text : Text) : Option Text :=
  let (basic, rest) := halves text
  insertions? rest.length 0x80 0 firstBias basic rest

end OrderReplay.Text.Punycode

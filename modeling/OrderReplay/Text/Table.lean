import OrderReplay.Text.Basic

/-! Tables of characters in short form: words of hexadecimal code points. `A-B` is a
range; `A>X,Y` gives a code point its image, `A-B>X` gives a range consecutive images, and
`A:B>X` does so for every other code point of it. -/
namespace OrderReplay.Text.Table

def words (lines : List String) : List Text :=
  lines.flatMap fun line => (pieces ' ' line.toList).filter (· ≠ [])

def codePoint (text : Text) : Nat :=
  text.foldl (fun total c => total * 16 + (hexDigit? c).getD 0) 0

def range (word : Text) : Nat × Nat :=
  match cut '-' word with
  | (least, none) => (codePoint least, codePoint least)
  | (least, some greatest) => (codePoint least, codePoint greatest)

def ranges (lines : List String) : Ranges := (words lines).map range

/-- Code points at equal distances. The first of them has the image, and those of the
others differ from it in their first code point, by as much as they do. -/
structure Run where
  least : Nat
  greatest : Nat
  step : Nat
  image : List Nat
  deriving DecidableEq, Repr

def run (word : Text) : Run :=
  let (span, image) := cut '>' word
  let image := (pieces ',' (image.getD [])).map codePoint
  match cut ':' span with
  | (least, some greatest) => ⟨codePoint least, codePoint greatest, 2, image⟩
  | (span, none) => ⟨(range span).1, (range span).2, 1, image⟩

def runs (lines : List String) : List Run := (words lines).map run

def Run.holds (r : Run) (c : Char) : Bool :=
  r.least ≤ c.toNat && c.toNat ≤ r.greatest && (c.toNat - r.least) % r.step == 0

def Run.imageOf (r : Run) (c : Char) : Text :=
  match r.image with
  | [] => []
  | first :: others => Char.ofNat (first + (c.toNat - r.least)) :: others.map Char.ofNat

def image? (list : List Run) (c : Char) : Option Text :=
  (list.find? (·.holds c)).map (·.imageOf c)

end OrderReplay.Text.Table

import OrderReplay.Text.Canonical.Decomposition
import OrderReplay.Text.Canonical.Order

/-! The composed form of texts. Texts that stand for the same characters have the same
composed form: each character is taken apart, marks are put in order, and what combines is
put together again. -/
namespace OrderReplay.Text.Canonical

/-! ## Syllables of Hangul

A syllable stands for a leading consonant, a vowel, and a trailing consonant which may be
missing. They are numbered in this order. -/

def syllableBase : Nat := 0xAC00
def leadBase : Nat := 0x1100
def vowelBase : Nat := 0x1161
def trailBase : Nat := 0x11A7
def leadCount : Nat := 19
def vowelCount : Nat := 21
def trailCount : Nat := 28

def syllable? (c : Char) : Option Nat :=
  let n := c.toNat
  if syllableBase ≤ n ∧ n < syllableBase + leadCount * vowelCount * trailCount then
    some (n - syllableBase)
  else none

def syllableParts (number : Nat) : Text :=
  let lead := Char.ofNat (leadBase + number / (vowelCount * trailCount))
  let vowel := Char.ofNat (vowelBase + number / trailCount % vowelCount)
  let trail := number % trailCount
  lead :: vowel :: if trail = 0 then [] else [Char.ofNat (trailBase + trail)]

/-- The syllable of two of its parts, or of one without a trailing consonant and one. -/
def joined? (first second : Char) : Option Char :=
  let a := first.toNat
  let b := second.toNat
  if leadBase ≤ a ∧ a < leadBase + leadCount ∧ vowelBase ≤ b ∧ b < vowelBase + vowelCount then
    some (Char.ofNat
      (syllableBase + ((a - leadBase) * vowelCount + (b - vowelBase)) * trailCount))
  else match syllable? first with
    | some number =>
      if number % trailCount = 0 ∧ trailBase < b ∧ b < trailBase + trailCount then
        some (Char.ofNat (a + (b - trailBase)))
      else none
    | none => none

/-! ## All characters -/

/-- No character has to be taken apart more often than this. -/
def depth : Nat := 8

def partsOf : Nat → Char → Text
  | 0, c => [c]
  | fuel + 1, c =>
    match syllable? c with
    | some number => syllableParts number
    | none =>
      match decomposition? c with
      | some text => text.flatMap (partsOf fuel)
      | none => [c]

def decomposed (text : Text) : Text := ordered (text.flatMap (partsOf depth))

def pair? (first second : Char) : Option Char :=
  match joined? first second with
  | some c => some c
  | none => composite? first second

/-- Goes on behind a character and marks that did not combine with it, the newest first.
A character combines with the first one unless a mark of its class or above it stands
between them. -/
def combine (first : Char) (marks : Text) : Text → Text
  | [] => first :: marks.reverse
  | c :: rest =>
    let class_ := combiningClass c
    let blocked : Bool := marks.head?.any fun mark => decide (class_ ≤ combiningClass mark)
    match (if blocked = true then none else pair? first c) with
    | some whole => combine whole marks rest
    | none =>
      if class_ = 0 then first :: marks.reverse ++ combine c [] rest
      else combine first (c :: marks) rest

def combined : Text → Text
  | [] => []
  | c :: rest => if combiningClass c = 0 then combine c [] rest else c :: combined rest

def composed (text : Text) : Text := combined (decomposed text)

end OrderReplay.Text.Canonical

import OrderReplay.Http.Name.Mapping
import OrderReplay.Text.Canonical.Composed
import OrderReplay.Text.Direction
import OrderReplay.Text.Joining
import OrderReplay.Text.Mark
import OrderReplay.Text.Punycode

/-! Names of hosts in any script, and the ASCII form in which they are sent. Characters
that differ only in case or form are made one, and each label that still is not ASCII is
written in Punycode behind a mark. -/
namespace OrderReplay.Http.Name

def mark : Text := "xn--".toList

def isAscii (text : Text) : Bool := text.all Text.Punycode.isBasic

def forbidden (c : Char) : Bool :=
  c.toNat ≤ 0x20 || c == '\x7f' ||
    c ∈ ['#', '%', '/', ':', '<', '>', '?', '@', '[', '\\', ']', '^', '|']

/-- The name in small letters and in composed form, if all its characters may be there.
What is ASCII is composed already. -/
def folded? (text : Text) : Option Text :=
  if isAscii text then some (Text.lower text)
  else (text.mapM mapped?).map fun parts => Text.Canonical.composed parts.flatten

def isProper (label : Text) : Bool :=
  !(label.head?.map Text.isMark).getD false && Text.Joining.fits label

def isFolded (label : Text) : Bool :=
  label.all (fun c => mapped? c == some [c]) && Text.Canonical.composed label == label

def writtenLimit : Nat := 1000
def readLimit : Nat := 2000

structure Label where
  text : Text
  ascii : Text
  deriving DecidableEq, Repr

namespace Label

/-- A label written in Punycode stands for one that needs it, and that would be written
so. -/
def ofWritten? (ascii : Text) : Option Label := do
  let coded := ascii.drop mark.length
  if coded = [] ∨ coded.getLast? = some '-' ∨ readLimit < coded.length then none
  let text ← Text.Punycode.decode? coded
  if isAscii text ∨ mark.isPrefixOf text then none
  if isFolded text && isProper text then some ⟨text, ascii⟩ else none

def ofText? (text : Text) : Option Label :=
  if mark.isPrefixOf text then if isAscii text then ofWritten? text else none
  else if isAscii text then some ⟨text, text⟩
  else if isProper text && text.length ≤ writtenLimit then
    some ⟨text, mark ++ Text.Punycode.encode text⟩
  else none

end Label

/-- Whether labels can stand beside each other. Where any of them holds a character that
is written from right to left, all of them must leave no doubt about their order. -/
def isOrderly (labels : List Label) : Bool :=
  !(labels.any fun label => label.text.any Text.Direction.isReversed) ||
    labels.all fun label => Text.Direction.isOrderly label.text

def ascii? (text : Text) : Option Text := do
  let folded ← folded? text
  if folded.any forbidden then none
  let labels ← (Text.pieces '.' folded).mapM Label.ofText?
  if isOrderly labels then some (['.'].intercalate (labels.map Label.ascii)) else none

end OrderReplay.Http.Name

import OrderReplay.Text.Basic

/-! Texts without the control sequences of terminals: what a reader of a plain file
gets to see of them. A sequence begins with an escape character; controls outside
sequences are left out as well, save for blanks. -/
namespace OrderReplay.Text.Terminal

inductive Sequence where
  | none
  | escape
  /-- An escape character and intermediate characters behind it. -/
  | intermediate
  /-- Ends with a letter or one of the signs beside the letters. -/
  | control
  /-- The head of a device control string. -/
  | deviceHead
  /-- A string that no character of its own ends. -/
  | string
  /-- A command to the system, which a bell ends. -/
  | system
  deriving DecidableEq, Repr

/-- Reading a text. A blank inside a sequence is shown, and so is what follows it up to
the next control; that control is then read as part of the sequence. -/
structure Reading where
  sequence : Sequence
  suspended : Bool
  deriving DecidableEq, Repr

def start : Reading := ⟨.none, false⟩

def isBlankControl (c : Char) : Bool := c == '\t' || c == '\n' || c == '\x0c' || c == '\r'

def isShown (c : Char) : Bool := (0x20 ≤ c.toNat && c ≠ '\x7f') || isBlankControl c

/-- Strings also end at an octet that is reserved for their end, in whatever character. -/
def endsString (c : Char) : Bool := 0x7F < c.toNat && 0x9C ∈ String.utf8EncodeChar c

/-- What is open behind a character. Two controls end every sequence, and an escape
character begins another one in any of them. -/
def next (s : Sequence) (c : Char) : Sequence :=
  let isIntermediate := ' ' ≤ c && c ≤ '/'
  if c = '\x18' ∨ c = '\x1a' then .none
  else if c = '\x1b' then .escape
  else match s with
    | .none => .none
    | .escape =>
      if isIntermediate then .intermediate
      else if c = '[' then .control
      else if c = ']' then .system
      else if c = 'P' then .deviceHead
      else if c = 'X' ∨ c = '^' ∨ c = '_' then .string
      else if '0' ≤ c ∧ c ≤ '~' then .none
      else .escape
    | .intermediate => if '0' ≤ c ∧ c ≤ '~' then .none else .intermediate
    | .control => if '@' ≤ c ∧ c ≤ '~' then .none else .control
    | .deviceHead => if '@' ≤ c ∧ c ≤ '~' then .string else .deviceHead
    | .string => if endsString c then .none else .string
    | .system => if c = '\x07' then .none else .system

def showsIn (s : Sequence) (c : Char) : Bool :=
  match s with
  | .none => isShown c
  | .escape | .intermediate | .control => isBlankControl c
  | .deviceHead | .string | .system => false

def step (r : Reading) (c : Char) : Bool × Reading :=
  if r.suspended && isShown c then
    (true, ⟨if 0x7F < c.toNat then .none else r.sequence, true⟩)
  else
    let shown := showsIn r.sequence c
    (shown, ⟨next r.sequence c, shown⟩)

def plainFrom (r : Reading) : Text → Text
  | [] => []
  | c :: rest =>
    let (shown, r) := step r c
    if shown then c :: plainFrom r rest else plainFrom r rest

def plain (text : Text) : Text := plainFrom start text

end OrderReplay.Text.Terminal

import OrderReplay.Json.Numeral
import OrderReplay.Json.Quotation

/-! JSON read by a machine that takes one character at a time. Its stack holds the
containers around the value that is being read, so nesting is bounded by a bound on
the stack, and a text is refused at the first character that rules it out. -/
namespace OrderReplay.Json

/-- What the text must hold: any value, or an object. -/
inductive Root where
  | any
  | object
  deriving DecidableEq, Repr

/-- A container around the value that is being read: the items before it, the newest
first, or the members before it and its own key. -/
inductive Frame where
  | list (items : List Value)
  | object (members : Members) (key : Text)
  deriving Repr

inductive Mode where
  /-- A value must follow. -/
  | value
  /-- Behind an opening bracket: an item, or the end of the list. -/
  | listStart
  /-- Behind an item: a comma, or the end of the list. -/
  | listNext (items : List Value)
  /-- Behind an opening brace: a key, or the end of the object. -/
  | objectStart
  /-- Behind the comma of an object: a key. -/
  | key (members : Members)
  /-- Behind a key: a colon. -/
  | colon (members : Members) (key : Text)
  /-- Behind a member: a comma, or the end of the object. -/
  | objectNext (members : Members)
  | string (scan : Quotation.Scan)
  | keyString (members : Members) (scan : Quotation.Scan)
  | number (negative : Bool) (phase : Numeral.Phase)
  /-- Within a literal name: the letters still due, and what it stands for. -/
  | literal (due : Text) (value : Value)
  /-- The value is complete; only blanks may follow. -/
  | complete (value : Value)
  deriving Repr

structure Reader where
  stack : List Frame
  mode : Mode
  deriving Repr

namespace Reader

/-- Containers that may be open at once. -/
def depthLimit : Nat := 127

def isSpace (c : Char) : Bool := c == ' ' || c == '\t' || c == '\n' || c == '\r'

def start : Reader := ⟨[], .value⟩

def Fits (root : Root) (value : Value) : Bool :=
  match root, value with
  | .any, _ => true
  | .object, .object _ => true
  | .object, _ => false

def settle (root : Root) (value : Value) : List Frame → Except Flaw Reader
  | [] => if Fits root value then .ok ⟨[], .complete value⟩ else .error .mistyped
  | .list items :: outer => .ok ⟨outer, .listNext (value :: items)⟩
  | .object members key :: outer => .ok ⟨outer, .objectNext (members.put key value)⟩

def deepen (stack : List Frame) (mode : Mode) : Except Flaw Reader :=
  if stack.length < depthLimit then .ok ⟨stack, mode⟩ else .error .malformed

/-- The first character of a value. A list where an object must stand is refused at
once, whatever follows. -/
def beginValue (root : Root) (stack : List Frame) (c : Char) : Except Flaw Reader :=
  if c = '\x7b' then deepen stack .objectStart
  else if c = '[' then
    if root = .object ∧ stack.isEmpty then .error .mistyped else deepen stack .listStart
  else if c = '"' then .ok ⟨stack, .string .start⟩
  else if c = 'n' then .ok ⟨stack, .literal ['u', 'l', 'l'] .null⟩
  else if c = 't' then .ok ⟨stack, .literal ['r', 'u', 'e'] (.bool true)⟩
  else if c = 'f' then .ok ⟨stack, .literal ['a', 'l', 's', 'e'] (.bool false)⟩
  else match Numeral.start? c with
    | some (negative, phase) => .ok ⟨stack, .number negative phase⟩
    | none => .error .malformed

def stepBehind (root : Root) (r : Reader) (c : Char) : Except Flaw Reader :=
  match r.mode with
  | .listNext items =>
    if isSpace c then .ok r
    else if c = ',' then .ok ⟨.list items :: r.stack, .value⟩
    else if c = ']' then settle root (.list items.reverse) r.stack
    else .error .malformed
  | .objectNext members =>
    if isSpace c then .ok r
    else if c = ',' then .ok ⟨r.stack, .key members⟩
    else if c = '\x7d' then settle root (.object members) r.stack
    else .error .malformed
  | _ => if isSpace c then .ok r else .error .malformed

def stepKey (stack : List Frame) (members : Members) (c : Char) : Except Flaw Reader :=
  if c = '"' then .ok ⟨stack, .keyString members .start⟩ else .error .malformed

def step (root : Root) (r : Reader) (c : Char) : Except Flaw Reader :=
  match r.mode with
  | .value => if isSpace c then .ok r else beginValue root r.stack c
  | .listStart =>
    if isSpace c then .ok r
    else if c = ']' then settle root (.list []) r.stack
    else beginValue root (.list [] :: r.stack) c
  | .objectStart =>
    if isSpace c then .ok r
    else if c = '\x7d' then settle root (.object []) r.stack
    else stepKey r.stack [] c
  | .key members => if isSpace c then .ok r else stepKey r.stack members c
  | .colon members key =>
    if isSpace c then .ok r
    else if c = ':' then .ok ⟨.object members key :: r.stack, .value⟩
    else .error .malformed
  | .string scan => do
    match ← Quotation.step scan c with
    | .more scan => .ok ⟨r.stack, .string scan⟩
    | .closed text => settle root (.string text) r.stack
  | .keyString members scan => do
    match ← Quotation.step scan c with
    | .more scan => .ok ⟨r.stack, .keyString members scan⟩
    | .closed text => .ok ⟨r.stack, .colon members text⟩
  | .number negative phase => do
    match ← Numeral.step phase c with
    | some phase => .ok ⟨r.stack, .number negative phase⟩
    | none => do
      let number ← Numeral.finish negative phase
      stepBehind root (← settle root (.number number) r.stack) c
  | .literal due value =>
    match due with
    | [] => .error .malformed
    | letter :: due =>
      if c ≠ letter then .error .malformed
      else if due.isEmpty then settle root value r.stack
      else .ok ⟨r.stack, .literal due value⟩
  | .listNext _ | .objectNext _ | .complete _ => stepBehind root r c

/-- The value at the end of the text. Only a number can end with it. -/
def finish (root : Root) (r : Reader) : Except Flaw Value :=
  match r.mode with
  | .complete value => .ok value
  | .number negative phase => do
    let number ← Numeral.finish negative phase
    match (← settle root (.number number) r.stack).mode with
    | .complete value => .ok value
    | _ => .error .incomplete
  | _ => .error .incomplete

def run (root : Root) (r : Reader) : Text → Except Flaw Reader
  | [] => .ok r
  | c :: rest =>
    match step root r c with
    | .ok next => run root next rest
    | .error flaw => .error flaw

theorem run_append (root : Root) (r : Reader) (a b : Text) :
    run root r (a ++ b) = (run root r a).bind (run root · b) := by
  induction a generalizing r with
  | nil => rfl
  | cons c rest ih =>
    simp only [List.cons_append, run]
    cases step root r c with
    | ok next => exact ih next
    | error flaw => rfl

end Reader

def read (root : Root) (text : Text) : Except Flaw Value := do
  let r ← Reader.run root .start text
  Reader.finish root r

def readObject (text : Text) : Except Flaw Members := do
  match ← read .object text with
  | .object members => .ok members
  | _ => .error .mistyped

end OrderReplay.Json

import OrderReplay.Event
import OrderReplay.Filter.Pattern

/-! Directives of a filter: which speakers they concern, and the level that they give
them. A directive is a level, a target, or a target with a level behind an equals sign;
behind the target, brackets may narrow it to spans and to events with certain fields. -/
namespace OrderReplay.Filter

structure Field where
  name : Text
  valued : Bool
  deriving DecidableEq, Repr

/-- A directive. Without a target it holds for every speaker; without a level nothing is
shown. -/
structure Directive where
  target : Option Text
  span : Option Text
  fields : List Field
  level : Option Level
  deriving DecidableEq, Repr

inductive Flaw where
  | malformed
  /-- A part of the text would begin or end inside a character. -/
  | torn
  deriving DecidableEq, Repr

/-- Names and numbers of levels. The outer `none` is no level, the inner one is none
of them. -/
def level? (text : Text) : Option (Option Level) :=
  let digits := match text with
    | '+' :: rest => rest
    | _ => text
  let number := if digits.isEmpty then none else
    digits.foldl (fun total c => do
      let total ← total
      let digit ← Text.digit? c
      some (total * 10 + digit)) (some 0)
  match number with
  | some 0 => some none
  | some 1 => some (some .error)
  | some 2 => some (some .warn)
  | some 3 => some (some .info)
  | some 4 => some (some .debug)
  | some 5 => some (some .trace)
  | some _ => none
  | none =>
    let name := Text.lower text
    if name = "error".toList then some (some .error)
    else if name = "warn".toList then some (some .warn)
    else if name = "info".toList then some (some .info)
    else if name = "debug".toList then some (some .debug)
    else if name = "trace".toList then some (some .trace)
    else if name = "off".toList then some none
    else none

def behind : Nat → Text → Except Flaw Text
  | 0, text => .ok text
  | _, [] => .error .torn
  | n, c :: rest => if c.utf8Size ≤ n then behind (n - c.utf8Size) rest else .error .torn

def before : Nat → Text → Except Flaw Text
  | 0, _ => .ok []
  | _, [] => .error .torn
  | n, c :: rest =>
    if c.utf8Size ≤ n then (before (n - c.utf8Size) rest).map (c :: ·) else .error .torn

def slice (text : Text) (start stop : Nat) : Except Flaw Text := do
  before (stop - start) (← behind start text)

inductive Place where
  | start
  /-- In a word that is the target or a level. -/
  | word (start : Nat)
  | span (start : Nat)
  | field (start : Nat)
  | fieldRead
  | targetRead
  | level (start : Nat)
  deriving DecidableEq, Repr

structure Draft where
  place : Place
  target : Option Text
  span : Option Text
  fields : List Field
  deriving DecidableEq, Repr

def field (text : Text) : Except Flaw Field :=
  match Text.cut '=' text with
  | ([], none) => .error .malformed
  | (name, none) => .ok ⟨name, false⟩
  | (name, some value) =>
    if Pattern.isValue (Text.cut '=' value).1 then .ok ⟨name, true⟩ else .error .malformed

def mayBegin (c : Char) : Bool := Text.isAlphanumeric c || c == '-' || c == ':' || c == '_'

/-- One character more, which ends at so many octets. The places are those in the text
without the blanks around it, but the parts are taken from the text as it is. -/
def Draft.step (text : Text) (d : Draft) (c : Char) (here : Nat) : Except Flaw Draft :=
  let after := here + c.utf8Size
  match d.place with
  | .start =>
    if c = '[' then .ok { d with place := .span after }
    else if mayBegin c then .ok { d with place := .word here }
    else .error .malformed
  | .word start =>
    if c = '=' then do
      .ok { d with place := .level after, target := some (← slice text start here) }
    else if c = '[' then do
      .ok { d with place := .span after, target := some (← slice text start here) }
    else .ok d
  | .span start =>
    if c = ']' then do .ok { d with place := .targetRead, span := some (← slice text start here) }
    else if c = '\x7b' then do
      let name ← slice text start here
      .ok { d with place := .field after, span := if name.isEmpty then none else some name }
    else .ok d
  | .field start =>
    if c = '\x7d' then do
      let field ← field (← slice text start here)
      .ok { d with place := .fieldRead, fields := d.fields ++ [field] }
    else .ok d
  | .fieldRead => if c = ']' then .ok { d with place := .targetRead } else .error .malformed
  | .targetRead => if c = '=' then .ok { d with place := .level after } else .error .malformed
  | .level _ => .ok d

def Draft.run (text : Text) (d : Draft) (here : Nat) : Text → Except Flaw Draft
  | [] => .ok d
  | c :: rest => do (← d.step text c here).run text (here + c.utf8Size) rest

/-- A word alone is a level if it names one, and else a target from which everything is
shown. A level that is left out shows everything, too. -/
def Draft.finish (text : Text) (d : Draft) : Except Flaw Directive :=
  let everything := some Level.trace
  match d.place with
  | .word start => do
    let word ← behind start text
    match level? word with
    | some level => .ok ⟨none, d.span, d.fields, level⟩
    | none => .ok ⟨some word, d.span, d.fields, everything⟩
  | .level start => do
    let name ← behind start text
    if name.isEmpty then .ok ⟨d.target, d.span, d.fields, everything⟩
    else match level? name with
      | some level => .ok ⟨d.target, d.span, d.fields, level⟩
      | none => .error .malformed
  | .targetRead => .ok ⟨d.target, d.span, d.fields, everything⟩
  | .start | .span _ | .field _ | .fieldRead => .error .malformed

namespace Directive

def ofText (text : Text) : Except Flaw Directive := do
  (← Draft.run text ⟨.start, none, none, []⟩ 0 (Text.trim text)).finish text

/-- Whether the directive asks for nothing that only a span can have. The others have no
say in what is shown, as nothing speaks from within a span. -/
def isStatic (d : Directive) : Bool := d.span.isNone && d.fields.all fun field => !field.valued

/-- A target concerns everyone whose path it begins. Fields must all be there. -/
def concerns (d : Directive) (e : Event) : Bool :=
  d.target.all (·.isPrefixOf e.speaker.path) &&
    d.fields.all fun field =>
      field.name == "message".toList || e.fields.any fun (name, _) => name.toList == field.name

def targetSize (d : Directive) : Nat :=
  match d.target with
  | none => 0
  | some target => target.foldl (fun size c => size + c.utf8Size) 1

/-- Whether the directive counts before another: the longer target first, then the more
fields, and at last the order of targets and of the names of fields. -/
def outranks (a b : Directive) : Bool :=
  if a.targetSize ≠ b.targetSize then b.targetSize < a.targetSize
  else if a.fields.length ≠ b.fields.length then b.fields.length < a.fields.length
  else if a.target ≠ b.target then decide (b.target.getD [] < a.target.getD [])
  else decide (b.fields.map Field.name < a.fields.map Field.name)

end Directive
end OrderReplay.Filter

import OrderReplay.Filter.Directive

/-! Which events are shown: directives that give speakers a level. -/
namespace OrderReplay

/-- Directives in the order in which they are looked at; of two that rank alike the
later one counts. -/
structure Filter where
  directives : List Filter.Directive
  deriving DecidableEq, Repr

namespace Filter

def standard : Filter := ⟨[⟨none, none, [], some .info⟩]⟩

def ofDirectives (directives : List Directive) : Filter :=
  let (narrowed, plain) := (directives.filter Directive.isStatic).partition (·.fields ≠ [])
  ⟨plain ++ narrowed⟩

def ofText (text : Text) : Except Flaw Filter := do
  let directives ← ((Text.pieces ',' text).filter (· ≠ [])).mapM Directive.ofText
  .ok (ofDirectives directives)

/-- The filter of a variable, unless reading its value breaks off. What is malformed
counts as not given. -/
def ofVariable? (value : Option Text) : Option Filter :=
  match value.map ofText with
  | none | some (.error .malformed) => some standard
  | some (.error .torn) => none
  | some (.ok filter) => some filter

/-- The directive that counts for an event: of those that concern it the one that no
other outranks. -/
def deciding? (e : Event) : List Directive → Option Directive
  | [] => none
  | d :: rest =>
    match deciding? e rest with
    | none => if d.concerns e then some d else none
    | some other => if d.concerns e && d.outranks other then some d else some other

def shows (f : Filter) (e : Event) : Bool :=
  match (deciding? e f.directives).bind (·.level) with
  | none => false
  | some level => e.level.rank ≤ level.rank

end Filter
end OrderReplay

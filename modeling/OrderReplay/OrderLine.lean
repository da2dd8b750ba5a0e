import OrderReplay.Json.Printer
import OrderReplay.Json.Reader

/-! Purchase order lines: JSON objects that name themselves by a usable `id`. -/
namespace OrderReplay

/-- The identifier that a value of the member `id` gives: a string that is not empty,
or a number in its written form. -/
def identifier? : Json.Value → Option Text
  | .string [] => none
  | .string text => some text
  | .number n => some n.written
  | _ => none

def idKey : Text := ['i', 'd']

def Json.Members.identifier? (members : Json.Members) : Option Text :=
  (members.get? idKey).bind OrderReplay.identifier?

/-- An order line keeps its object as it was read; the identifier is always that of
the object. -/
structure OrderLine where
  fields : Json.Members
  id : Text
  id_of_fields : fields.identifier? = some id

namespace OrderLine

def ofMembers? (fields : Json.Members) : Option OrderLine :=
  match h : fields.identifier? with
  | some id => some ⟨fields, id, h⟩
  | none => none

def value (line : OrderLine) : Json.Value := .object line.fields

def written (line : OrderLine) : Text := line.value.written

def same (a b : OrderLine) : Bool := a.id == b.id && Json.Members.same a.fields b.fields

theorem ofMembers?_fields {fields : Json.Members} {line : OrderLine}
    (h : ofMembers? fields = some line) : line.fields = fields := by
  unfold ofMembers? at h
  split at h
  · cases h; rfl
  · cases h

theorem ofMembers?_isSome (fields : Json.Members) :
    (ofMembers? fields).isSome = fields.identifier?.isSome := by
  unfold ofMembers?
  split <;> simp_all

/-- An order line is known by its object. -/
theorem ofMembers?_of_fields (line : OrderLine) : ofMembers? line.fields = some line := by
  obtain ⟨fields, id, named⟩ := line
  unfold ofMembers?
  split
  next other found =>
    obtain rfl : other = id := Option.some.inj (found.symm.trans named)
    rfl
  next none =>
    rw [named] at none
    cases none

end OrderLine
end OrderReplay

import OrderReplay.Binary64.Basic
import OrderReplay.Text.Basic

/-! JSON values, and why a text is none. Members of an object keep the order in which their
keys first came; a key that comes again keeps its place and takes the new value. -/
namespace OrderReplay.Json

/-- Why a text is refused. The first flaw met from left to right decides. -/
inductive Flaw where
  /-- The text ended before the value did. -/
  | incomplete
  /-- A value of another kind than the one asked for. -/
  | mistyped
  /-- Everything else: a character out of place, a number too large, nesting too deep. -/
  | malformed
  deriving DecidableEq, Repr

/-- Integers are kept as such while they fit 64 bits, with or without a sign. -/
inductive Number where
  | integer (value : Int)
  | real (value : Binary64)
  deriving DecidableEq, Repr

def Number.same : Number → Number → Bool
  | .integer a, .integer b => a == b
  | .real a, .real b => a.same b
  | _, _ => false

inductive Value where
  | null
  | bool (value : Bool)
  | number (value : Number)
  | string (text : Text)
  | list (items : List Value)
  | object (members : List (Text × Value))
  deriving Repr

abbrev Members := List (Text × Value)

namespace Members

def get? (key : Text) : Members → Option Value
  | [] => none
  | (name, value) :: rest => if name = key then some value else get? key rest

def put (key : Text) (value : Value) : Members → Members
  | [] => [(key, value)]
  | (name, old) :: rest =>
    if name = key then (name, value) :: rest else (name, old) :: put key value rest

theorem get?_put_self (key : Text) (value : Value) (ms : Members) :
    get? key (put key value ms) = some value := by
  induction ms with
  | nil => simp [put, get?]
  | cons m rest ih =>
    obtain ⟨name, old⟩ := m
    by_cases h : name = key <;> simp [put, get?, h, ih]

theorem get?_put_other (key other : Text) (value : Value) (ms : Members) (h : other ≠ key) :
    get? other (put key value ms) = get? other ms := by
  induction ms with
  | nil => simp [put, get?, h.symm]
  | cons m rest ih =>
    obtain ⟨name, old⟩ := m
    by_cases hn : name = key
    · subst hn; simp [put, get?, h.symm]
    · simp [put, get?, hn, ih]

theorem keys_put (key : Text) (value : Value) (ms : Members) :
    (put key value ms).map Prod.fst =
      if key ∈ ms.map Prod.fst then ms.map Prod.fst else ms.map Prod.fst ++ [key] := by
  induction ms with
  | nil => simp [put]
  | cons m rest ih =>
    obtain ⟨name, old⟩ := m
    by_cases hn : name = key
    · subst hn; simp [put]
    · have : key ≠ name := fun e => hn e.symm
      simp only [put, hn, if_false, List.map_cons, ih, List.mem_cons, this, false_or]
      split <;> simp

end Members

mutual
/-- Equality of values, the order of members put aside. -/
def Value.same : Value → Value → Bool
  | .null, .null => true
  | .bool a, .bool b => a == b
  | .number a, .number b => a.same b
  | .string a, .string b => a == b
  | .list as, .list bs => Value.sameItems as bs
  | .object as, .object bs => as.length == bs.length && Value.sameMembers as bs
  | _, _ => false

def Value.sameItems : List Value → List Value → Bool
  | [], [] => true
  | a :: as, b :: bs => a.same b && Value.sameItems as bs
  | _, _ => false

def Value.sameMembers : List (Text × Value) → List (Text × Value) → Bool
  | [], _ => true
  | (key, a) :: as, bs =>
    (match Members.get? key bs with
      | some b => a.same b
      | none => false) && Value.sameMembers as bs
end

def Members.same (as bs : Members) : Bool := (Value.object as).same (.object bs)

end OrderReplay.Json

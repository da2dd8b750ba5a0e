import OrderReplay.Proofs.FailureLine.Identity
import OrderReplay.Proofs.Json.Alike

/-! Equality of order lines against equality of the objects that they were read from. The
identifier is compared as text and beside the object; it adds nothing unless the two zeros are
the identifiers, which are equal as numbers but lead to different paths. -/
namespace OrderReplay

namespace Binary64

/-- Numbers that amount to the same are one number, or the two zeros. -/
theorem eq_or_zeros {x y : Binary64} (amount : x.amount = y.amount) :
    x = y ∨ ∃ sign, x = ⟨sign, 0⟩ ∧ y = ⟨!sign, 0⟩ := by
  obtain ⟨units, signs⟩ := (Binary64.same_iff x y).1 ((Binary64.same_iff_amount x y).2 amount)
  obtain ⟨sign, m⟩ := x
  obtain ⟨sign', n⟩ := y
  obtain rfl : m = n := units
  by_cases same : sign = sign'
  · exact .inl (by rw [same])
  · obtain rfl : m = 0 := signs.resolve_left same
    exact .inr ⟨sign, rfl, by rw [Bool.eq_not.2 (Ne.symm same)]⟩

theorem written_zero_ne (sign : Bool) :
    (⟨sign, 0⟩ : Binary64).written ≠ (⟨!sign, 0⟩ : Binary64).written := by
  cases sign <;> decide

end Binary64

def Json.Value.Zeros (x y : Json.Value) : Prop :=
  ∃ sign, x = .number (.real ⟨sign, 0⟩) ∧ y = .number (.real ⟨!sign, 0⟩)

/-- Values that are the same give the same identifier, unless they are the two zeros. -/
theorem identifier?_eq_iff {x y : Json.Value} {one other : Text} (alike : x.Alike y)
    (left : identifier? x = some one) (right : identifier? y = some other) :
    one = other ↔ ¬ x.Zeros y := by
  cases alike with
  | null | bool | list | object => cases left
  | string =>
    refine iff_of_true (Option.some.inj (left.symm.trans right)) ?_
    rintro ⟨sign, string, -⟩
    cases string
  | number same =>
    cases same with
    | integer =>
      refine iff_of_true (Option.some.inj (left.symm.trans right)) ?_
      rintro ⟨sign, integer, -⟩
      cases integer
    | @real x y amount =>
      obtain rfl := Option.some.inj left
      obtain rfl := Option.some.inj right
      rcases Binary64.eq_or_zeros amount with rfl | ⟨sign, rfl, rfl⟩
      · refine iff_of_true rfl ?_
        rintro ⟨sign, here, there⟩
        have signs := here.symm.trans there
        cases sign <;> cases signs
      · exact iff_of_false (Binary64.written_zero_ne sign) fun none => none ⟨sign, rfl, rfl⟩

namespace OrderLine

def NamedByZeros (a b : OrderLine) : Prop :=
  ∃ x y, a.fields.get? idKey = some x ∧ b.fields.get? idKey = some y ∧ x.Zeros y

variable {payload other : Text} {a b : OrderLine}

theorem sound_value (given : ofPayload payload = .ok a) : a.value.Sound Json.Reader.depthLimit :=
  Json.sound_of_read (Json.read_of_readObject (FailureLine.ofPayload_eq_ok_iff.1 given))

/-- Order lines are equal if their identifiers are the same text and their objects the same. -/
theorem same_iff_id (left : ofPayload payload = .ok a) (right : ofPayload other = .ok b) :
    a.same b = true ↔ a.id = b.id ∧ a.value.Alike b.value := by
  rw [← Json.Value.same_iff_alike (sound_value left) (sound_value right), OrderLine.same,
    Bool.and_eq_true, beq_iff_eq]
  rfl

theorem id_eq_iff (alike : a.value.Alike b.value) : a.id = b.id ↔ ¬ NamedByZeros a b := by
  obtain ⟨x, here, left⟩ := a.exists_named
  obtain ⟨y, there, right⟩ := b.exists_named
  have zeros : NamedByZeros a b ↔ x.Zeros y := by
    constructor
    · rintro ⟨x', y', here', there', zeros⟩
      rw [here] at here'
      rw [there] at there'
      obtain rfl := Option.some.inj here'
      obtain rfl := Option.some.inj there'
      exact zeros
    · exact fun zeros => ⟨x, y, here, there, zeros⟩
  rw [zeros]
  cases alike with
  | object _ each => exact identifier?_eq_iff (each idKey x y here there) left right

/-- Order lines that payloads give are equal exactly if their objects are the same and they are
not named by the two zeros, one by each. This is an equality: it holds of every line and itself,
in both directions, and from line to line. -/
theorem equal_iff_alike (left : ofPayload payload = .ok a) (right : ofPayload other = .ok b) :
    (a.value.same b.value = true ↔ a.value.Alike b.value) ∧
    (a.same b = true ↔ a.value.same b.value = true ∧ ¬ NamedByZeros a b) ∧
    a.same a = true ∧ (a.same b = true → b.same a = true) ∧
    ∀ third c, ofPayload third = .ok c → a.same b = true → b.same c = true → a.same c = true := by
  have values := Json.Value.same_iff_alike (sound_value left) (sound_value right)
  refine ⟨values, ?_, ?_, ?_, ?_⟩
  · rw [same_iff_id left right, values, and_comm]
    exact and_congr_right id_eq_iff
  · exact (same_iff_id left left).2 ⟨rfl, .refl (sound_value left)⟩
  · rw [same_iff_id left right, same_iff_id right left]
    rintro ⟨id, alike⟩
    exact ⟨id.symm, alike.symm⟩
  · intro third c last
    rw [same_iff_id left right, same_iff_id right last, same_iff_id left last]
    rintro ⟨id, alike⟩ ⟨id', alike'⟩
    exact ⟨id.trans id', alike.trans alike'⟩

def compared? (one other : Text) : Option (Bool × Bool) :=
  match ofPayload one, ofPayload other with
  | .ok a, .ok b => some (a.same b, a.value.same b.value)
  | _, _ => none

theorem exists_compared {one other : Text} {lines values : Bool}
    (h : compared? one other = some (lines, values)) :
    ∃ a b, ofPayload one = .ok a ∧ ofPayload other = .ok b ∧
      a.same b = lines ∧ a.value.same b.value = values := by
  unfold compared? at h
  split at h
  next a b left right =>
    obtain ⟨rfl, rfl⟩ := Prod.mk.inj (Option.some.inj h)
    exact ⟨a, b, left, right, rfl, rfl⟩
  next => cases h

/-- Two payloads with their members in different orders, at both depths, with zeros of both signs
further down, and with an identifier that is spelled in two ways. -/
theorem equal_iff_alike_reordered :
    let one := "\x7b\"id\":1.50,\"x\":\x7b\"p\":0.0,\"q\":[2]\x7d\x7d".toList
    let other := "\x7b\"x\":\x7b\"q\":[2],\"p\":-0.0\x7d,\"id\":15e-1\x7d".toList
    ∃ a b, ofPayload one = .ok a ∧ ofPayload other = .ok b ∧ a.same b = true ∧
      b.same a = true ∧ a.value.Alike b.value ∧ ¬ NamedByZeros a b := by
  intro one other
  have compared : compared? one other = some (true, true) := by decide +kernel
  obtain ⟨a, b, left, right, same, -⟩ := exists_compared compared
  obtain ⟨values, lines, -, symm, -⟩ := equal_iff_alike left right
  exact ⟨a, b, left, right, same, symm same, values.1 (lines.1 same).1, (lines.1 same).2⟩

/-- The two zeros as identifiers: the objects are the same, and the order lines are not equal. -/
theorem unequal_named_by_zeros :
    let one := "\x7b\"id\":0.0\x7d".toList
    let other := "\x7b\"id\":-0.0\x7d".toList
    ∃ a b, ofPayload one = .ok a ∧ ofPayload other = .ok b ∧
      a.value.Alike b.value ∧ ¬ (a.same b = true ↔ a.value.same b.value = true) := by
  intro one other
  have compared : compared? one other = some (false, true) := by decide +kernel
  obtain ⟨a, b, left, right, lines, values⟩ := exists_compared compared
  refine ⟨a, b, left, right, ?_, fun same => ?_⟩
  · exact (Json.Value.same_iff_alike (sound_value left) (sound_value right)).1 values
  · rw [lines, values] at same
    exact absurd (same.2 rfl) (by decide)

end OrderLine
end OrderReplay

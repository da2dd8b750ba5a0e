import OrderReplay.Proofs.Binary64.Shortest
import OrderReplay.Proofs.Json.Accepted
import OrderReplay.Proofs.Json.Digits

/-! What is written for a value spells that value, each number as the numeral it is written
as. -/
namespace OrderReplay

namespace Binary64

open Json (Numeral)

/-- The numeral that a real is written as: the digits of its shortest decimal, in places or with
a power of ten. -/
def numeral (x : Binary64) : Numeral :=
  if x.units = 0 then ⟨x.negative, ['0'], some ['0'], none⟩
  else
    let d := shortest x.units
    let digits := Text.ofNat d.digits
    let place := d.exponent + ((digits.length : Int) - 1)
    if style.leastPlace ≤ place ∧ place ≤ style.greatestPlace then
      Numeral.inPlaces x.negative digits place
    else Numeral.withPower x.negative digits place

theorem numeral_text (x : Binary64) : x.numeral.text = x.written := by
  have signed (text : Text) : (if x.negative then '-' :: text else text) =
      (if x.negative then ['-'] else []) ++ text := by
    cases x.negative <;> rfl
  unfold numeral written magnitude
  rw [signed]
  split
  next => simp [Numeral.text]
  next =>
    simp only
    split
    · exact Numeral.inPlaces_text ..
    · exact Numeral.withPower_text ..

/-- The shortest decimal of a magnitude is zero only where none was found. -/
theorem shortest_digits {units : Nat} (positive : 0 < units) :
    0 < (shortest units).digits ∨ shortest units = ⟨0, 0⟩ := by
  unfold shortest
  simp only
  cases search : (List.range 17).findSome? fun more => onGrid? units (more + 1) with
  | none => exact .inr rfl
  | some first =>
    obtain ⟨_, count, _, _, found, _⟩ := List.findSome?_eq_some_iff.1 search
    obtain ⟨_, _, _, _, _, _, spec, _⟩ := onGrid?_spec units (count + 1)
    exact .inl ((trimZeros_value first 17).2 (digits_pos positive (spec first found).2))

theorem numeral_lawful (x : Binary64) : x.numeral.Lawful := by
  unfold numeral
  split
  next =>
    refine ⟨by simp [Json.Digits, Text.digit?], by simp, fun _ => rfl, ?_, by simp⟩
    intro f member
    cases member
    exact ⟨by simp [Json.Digits, Text.digit?], by simp⟩
  next some =>
    rcases shortest_digits (Nat.pos_of_ne_zero some) with digits | none
    · simp only
      split
      · exact Numeral.inPlaces_lawful _ (.inl digits)
      · exact Numeral.withPower_lawful _ digits _
    · simp only [none]
      exact Numeral.inPlaces_lawful _ (.inr ⟨rfl, rfl⟩)

theorem numeral_value {x : Binary64} (positive : 0 < x.units) :
    x.numeral.value = (bif x.negative then -1 else 1) * (shortest x.units).value := by
  unfold numeral
  rw [if_neg positive.ne', Decimal.value, ← mul_assoc]
  simp only
  split
  · exact Numeral.inPlaces_value _ rfl
  · exact Numeral.withPower_value _ rfl

theorem numeral_value_zero {x : Binary64} (zero : x.units = 0) : x.numeral.value = 0 := by
  unfold numeral
  rw [if_pos zero]
  simp [Numeral.value, Numeral.significand, Json.ofDigits, Text.digit?]

end Binary64

namespace Json

def Number.numeral : Number → Numeral
  | .integer v => ⟨v < 0, Text.ofNat v.natAbs, none, none⟩
  | .real x => x.numeral

theorem Number.numeral_text (n : Number) : n.numeral.text = n.written := by
  cases n with
  | integer v => cases v <;> simp [numeral, written, Numeral.text]
  | real x => exact x.numeral_text

theorem Number.numeral_lawful (n : Number) : n.numeral.Lawful := by
  cases n with
  | integer v =>
    refine ⟨digits_ofNat _, Nat.toDigits_ne_nil, ?_, by simp [numeral], by simp [numeral]⟩
    intro zero
    rcases Nat.eq_zero_or_pos v.natAbs with none | some
    · simp only [numeral, none]
      rfl
    · exact absurd zero (head?_ofNat some)
  | real x => exact x.numeral_lawful

theorem Number.numeral_value_integer (v : Int) : (Number.integer v).numeral.value = v := by
  have digits : (Number.integer v).numeral.significand = v.natAbs := by
    simp [numeral, Numeral.significand, ofDigits_ofNat]
  have ones : (Number.integer v).numeral.exponent = 0 := by
    simp [numeral, Numeral.exponent]
  rw [Numeral.value, digits, ones, zpow_zero, mul_one]
  cases v with
  | ofNat n =>
    have above : decide (Int.ofNat n < 0) = false := decide_eq_false (Int.natCast_nonneg n).not_gt
    simp only [numeral, above, cond_false, one_mul]
    rfl
  | negSucc n =>
    have below : decide (Int.negSucc n < 0) = true := decide_eq_true (Int.negSucc_lt_zero n)
    simp only [numeral, below, cond_true, Int.natAbs_negSucc, Int.cast_negSucc]
    push_cast
    ring

theorem spells_render (text : Text) : Spells (Quotation.render text) (.string text) := by
  have goes := Quotation.goes_text text []
  rw [List.append_nil] at goes
  have spells := Reader.spells_quoted goes rfl
  rw [List.reverse_reverse] at spells
  exact spells

mutual
def Value.tree : Value → Tree Numeral
  | .null => .null
  | .bool b => .bool b
  | .number n => .number n.numeral
  | .string text => .string text
  | .list items => .list (Value.treeItems items)
  | .object members => .object (Value.treeMembers members)

def Value.treeItems : List Value → List (Tree Numeral)
  | [] => []
  | item :: rest => item.tree :: Value.treeItems rest

def Value.treeMembers : List (Text × Value) → List (Text × Tree Numeral)
  | [] => []
  | (key, value) :: rest => (key, value.tree) :: Value.treeMembers rest
end

theorem Value.treeItems_eq (items : List Value) : treeItems items = items.map tree := by
  induction items with
  | nil => rw [treeItems, List.map_nil]
  | cons item rest ih => rw [treeItems, ih, List.map_cons]

theorem Value.treeMembers_eq (members : Members) :
    treeMembers members = members.map fun m => (m.1, m.2.tree) := by
  induction members with
  | nil => rw [treeMembers, List.map_nil]
  | cons m rest ih => rw [treeMembers, ih, List.map_cons]

theorem writtenItems_eq (first : Value) (rest : List Value) :
    first.written ++ Value.writtenItems rest =
      [','].intercalate ((first :: rest).map Value.written) ++ [']'] := by
  induction rest generalizing first with
  | nil => simp [Value.writtenItems]
  | cons next rest ih =>
    rw [Value.writtenItems, List.cons_append, ih next]
    simp

def Value.writtenMember (m : Text × Value) : Text := Quotation.render m.1 ++ ':' :: m.2.written

theorem writtenMembers_eq (first : Text × Value) (rest : Members) :
    Value.writtenMember first ++ Value.writtenMembers rest =
      [','].intercalate ((first :: rest).map Value.writtenMember) ++ ['\x7d'] := by
  induction rest generalizing first with
  | nil => simp [Value.writtenMembers]
  | cons next rest ih =>
    have here := ih next
    simp only [Value.writtenMember, List.cons_append, List.append_assoc] at here ⊢
    rw [Value.writtenMembers]
    simp only [List.cons_append, List.append_assoc, here]
    simp [Value.writtenMember]

theorem merged_of_nodup {α : Type} {members : List (Text × α)}
    (keys : (members.map Prod.fst).Nodup) : merged members = members := by
  induction members with
  | nil => rfl
  | cons m rest ih =>
    obtain ⟨fresh, keys⟩ := List.nodup_cons.1 keys
    have others : ∀ other ∈ rest, other.1 ≠ m.1 :=
      fun other member same => fresh (same ▸ List.mem_map_of_mem member)
    have last : lastUnder m.1 rest = none := by
      refine Option.eq_none_iff_forall_ne_some.2 fun value found => ?_
      exact others _ (mem_of_lastUnder found) rfl
    rw [merged, last, ih keys, List.filter_eq_self.2 (by simpa using others)]
    rfl

theorem spells_items {items : List Value} (each : ∀ item ∈ items, Spells item.written item.tree) :
    Spells (Value.list items).written (Value.list items).tree := by
  cases items with
  | nil =>
    rw [Value.written, Value.tree, Value.treeItems]
    exact .emptyList blank_nil
  | cons first rest =>
    have some : (first :: rest).map (fun v => (v.written, v.tree)) ≠ [] := by simp
    have parts : ∀ i ∈ (first :: rest).map fun v => (v.written, v.tree), Spells i.1 i.2 := by
      simpa using each
    have spells := Spells.list some parts
    rw [List.map_map, List.map_map] at spells
    rw [Value.written, List.cons_append, writtenItems_eq, Value.tree, Value.treeItems_eq]
    exact spells

def Spelling.ofMember (m : Text × Value) : Spelling :=
  ⟨Quotation.render m.1, m.1, m.2.written, m.2.tree⟩

theorem spells_members {members : Members} (keys : (members.map Prod.fst).Nodup)
    (each : ∀ m ∈ members, Spells m.2.written m.2.tree) :
    Spells (Value.object members).written (Value.object members).tree := by
  cases members with
  | nil =>
    rw [Value.written, Value.tree, Value.treeMembers]
    exact .emptyObject blank_nil
  | cons first rest =>
    have some : (first :: rest).map Spelling.ofMember ≠ [] := by simp
    have names : ∀ m ∈ (first :: rest).map Spelling.ofMember, Spells m.keyText (.string m.key) := by
      intro m member
      obtain ⟨v, _, rfl⟩ := List.mem_map.1 member
      exact spells_render v.1
    have values : ∀ m ∈ (first :: rest).map Spelling.ofMember, Spells m.valueText m.value := by
      intro m member
      obtain ⟨v, listed, rfl⟩ := List.mem_map.1 member
      exact each v listed
    have spells := Spells.object some names values
    have once : (((first :: rest).map fun m => (m.1, m.2.tree)).map Prod.fst).Nodup := by
      rw [List.map_map]
      exact keys
    have written := writtenMembers_eq first rest
    rw [List.map_map, List.map_map] at spells
    rw [Value.writtenMember] at written
    rw [Value.written, Value.tree, Value.treeMembers_eq, ← merged_of_nodup once]
    simp only [List.cons_append, List.append_assoc] at written spells ⊢
    rw [written]
    exact spells

theorem spells_written {room : Nat} {value : Value} (sound : value.Sound room) :
    Spells value.written value.tree := by
  induction sound with
  | null =>
    rw [Value.written, Value.tree]
    exact .null
  | @bool _ b =>
    cases b
    · rw [Value.written, Value.tree]
      exact .false
    · rw [Value.written, Value.tree]
      exact .true
  | @number _ n held =>
    rw [Value.written, Value.tree, ← n.numeral_text]
    exact .number n.numeral_lawful
  | string =>
    rw [Value.written, Value.tree]
    exact spells_render _
  | list each ih => exact spells_items ih
  | object keys each ih => exact spells_members keys ih

end Json
end OrderReplay

import Mathlib.Data.List.Perm.Subperm
import OrderReplay.Proofs.Json.Sound
import OrderReplay.Proofs.Json.Spelled

/-! When values are the same: lists item by item, objects key by key, in whatever order their
members stand, and numbers of one kind by what they amount to. The comparison of two values decides
this for all values that can be read; it goes through the members of one object only and counts
those of the other, which is enough because no key comes twice. -/
namespace OrderReplay

/-- The number in units of 2^-1074, with its sign. The two zeros amount to the same. -/
def Binary64.amount (x : Binary64) : Int := if x.negative then -x.units else x.units

theorem Binary64.same_iff_amount (a b : Binary64) : a.same b = true ↔ a.amount = b.amount := by
  rw [Binary64.same_iff, Binary64.amount, Binary64.amount]
  cases a.negative <;> cases b.negative <;> simp <;> omega

namespace Json

inductive Number.Alike : Number → Number → Prop where
  | integer {v} : Alike (.integer v) (.integer v)
  | real {a b : Binary64} (amount : a.amount = b.amount) : Alike (.real a) (.real b)

theorem Number.same_iff_alike (a b : Number) : a.same b = true ↔ a.Alike b := by
  constructor
  · intro same
    cases a <;> cases b <;> simp only [Number.same, Bool.false_eq_true, beq_iff_eq] at same
    case integer.integer => exact same ▸ .integer
    case real.real => exact .real ((Binary64.same_iff_amount _ _).1 same)
  · rintro (_ | ⟨amount⟩)
    · simp [Number.same]
    · exact (Binary64.same_iff_amount _ _).2 amount

/-- Values that are the same. -/
inductive Value.Alike : Value → Value → Prop where
  | null : Alike .null .null
  | bool {b} : Alike (.bool b) (.bool b)
  | number {a b : Number} (same : a.Alike b) : Alike (.number a) (.number b)
  | string {text} : Alike (.string text) (.string text)
  | list {as bs : List Value} (length : as.length = bs.length)
      (each : ∀ (i : Nat) a b, as[i]? = some a → bs[i]? = some b → Alike a b) :
      Alike (.list as) (.list bs)
  | object {as bs : Members} (keys : ∀ key, (as.get? key).isSome = (bs.get? key).isSome)
      (each : ∀ key a b, as.get? key = some a → bs.get? key = some b → Alike a b) :
      Alike (.object as) (.object bs)

namespace Value.Alike

theorem refl {room : Nat} {a : Value} (sound : a.Sound room) : a.Alike a := by
  induction sound with
  | null => exact .null
  | bool => exact .bool
  | @number _ n =>
    cases n with
    | integer => exact .number .integer
    | real => exact .number (.real rfl)
  | string => exact .string
  | list _ ih =>
    refine .list rfl fun i a b here there => ?_
    obtain rfl := Option.some.inj (here.symm.trans there)
    exact ih a (List.mem_of_getElem? here)
  | object _ _ ih =>
    refine .object (fun _ => rfl) fun key a b here there => ?_
    obtain rfl := Option.some.inj (here.symm.trans there)
    exact ih (key, a) (Members.mem_of_get? here)

theorem symm {a b : Value} (h : a.Alike b) : b.Alike a := by
  induction h with
  | null => exact .null
  | bool => exact .bool
  | number same =>
    cases same with
    | integer => exact .number .integer
    | real amount => exact .number (.real amount.symm)
  | string => exact .string
  | list length _ ih => exact .list length.symm fun i a b here there => ih i b a there here
  | object keys _ ih =>
    exact .object (fun key => (keys key).symm) fun key a b here there => ih key b a there here

theorem trans {a b c : Value} (first : a.Alike b) (second : b.Alike c) : a.Alike c := by
  induction first generalizing c with
  | null => exact second
  | bool => exact second
  | number one =>
    cases second with
    | number other =>
      cases one with
      | integer => exact .number other
      | real amount =>
        cases other with
        | real again => exact .number (.real (amount.trans again))
  | string => exact second
  | @list as bs length _ ih =>
    cases second with
    | @list _ cs again each =>
      refine .list (length.trans again) fun i a c here there => ?_
      have within : i < bs.length := length ▸ (List.getElem?_eq_some_iff.1 here).1
      have between : bs[i]? = some bs[i] := List.getElem?_eq_getElem within
      exact ih i a _ here between (each i _ c between there)
  | @object as bs keys _ ih =>
    cases second with
    | @object _ cs again each =>
      refine .object (fun key => (keys key).trans (again key)) fun key a c here there => ?_
      have found : (bs.get? key).isSome = true := by
        rw [← keys key, here]
        rfl
      obtain ⟨b, between⟩ := Option.isSome_iff_exists.1 found
      exact ih key a b here between (each key b c between there)

end Value.Alike

/-! ### The comparison -/

theorem Members.get?_isSome_iff (key : Text) (members : Members) :
    (members.get? key).isSome = true ↔ key ∈ members.map Prod.fst := by
  induction members with
  | nil => simp [Members.get?]
  | cons m rest ih =>
    obtain ⟨name, value⟩ := m
    by_cases same : name = key
    · simp [Members.get?, same]
    · simp [Members.get?, same, Ne.symm same, ih]

theorem Value.sameItems_iff (as bs : List Value) : Value.sameItems as bs = true ↔
    as.length = bs.length ∧
      ∀ (i : Nat) (a b : Value), as[i]? = some a → bs[i]? = some b → a.same b = true := by
  induction as generalizing bs with
  | nil => cases bs <;> simp [Value.sameItems]
  | cons a as ih =>
    cases bs with
    | nil => simp [Value.sameItems]
    | cons b bs =>
      simp only [Value.sameItems, Bool.and_eq_true, ih, List.length_cons, Nat.add_right_cancel_iff]
      constructor
      · rintro ⟨first, length, rest⟩
        refine ⟨length, fun i => ?_⟩
        cases i with
        | zero => simpa using first
        | succ i => simpa using rest i
      · rintro ⟨length, each⟩
        exact ⟨each 0 a b rfl rfl, length, fun i => each (i + 1)⟩

theorem Value.sameMembers_iff (as bs : Members) : Value.sameMembers as bs = true ↔
    ∀ m ∈ as, ∃ b, bs.get? m.1 = some b ∧ m.2.same b = true := by
  induction as with
  | nil => simp [Value.sameMembers]
  | cons m rest ih =>
    obtain ⟨key, a⟩ := m
    rw [Value.sameMembers, Bool.and_eq_true, ih, List.forall_mem_cons]
    cases found : bs.get? key <;> simp

/-- Where no key comes twice, as many keys of which each is found are the same keys. -/
theorem Members.keys_iff {as bs : Members} (left : (as.map Prod.fst).Nodup)
    (right : (bs.map Prod.fst).Nodup) :
    (∀ key, (as.get? key).isSome = (bs.get? key).isSome) ↔
      as.length = bs.length ∧ ∀ m ∈ as, (bs.get? m.1).isSome = true := by
  have same (key : Text) : (as.get? key).isSome = (bs.get? key).isSome ↔
      (key ∈ as.map Prod.fst ↔ key ∈ bs.map Prod.fst) := by
    rw [Bool.eq_iff_iff, get?_isSome_iff, get?_isSome_iff]
  simp only [same, get?_isSome_iff]
  rw [← List.perm_ext_iff_of_nodup left right]
  have length : as.length = bs.length ↔ (as.map Prod.fst).length = (bs.map Prod.fst).length := by
    simp
  constructor
  · intro perm
    exact ⟨length.2 perm.length_eq, fun m member => perm.subset (List.mem_map_of_mem member)⟩
  · rintro ⟨same, found⟩
    refine (List.subperm_of_subset left ?_).perm_of_length_le (length.1 same).ge
    intro key member
    obtain ⟨m, listed, rfl⟩ := List.mem_map.1 member
    exact found m listed

theorem Value.alike_of_same {room other : Nat} {a b : Value} (left : a.Sound room)
    (right : b.Sound other) (h : a.same b = true) : a.Alike b := by
  induction left generalizing b other with
  | null =>
    cases b with
    | null => exact .null
    | _ => simp [Value.same] at h
  | bool =>
    cases b with
    | bool =>
      obtain rfl := beq_iff_eq.1 (by simpa only [Value.same] using h)
      exact .bool
    | _ => simp [Value.same] at h
  | number =>
    cases b with
    | number => exact .number ((Number.same_iff_alike _ _).1 (by simpa only [Value.same] using h))
    | _ => simp [Value.same] at h
  | string =>
    cases b with
    | string =>
      obtain rfl := beq_iff_eq.1 (by simpa only [Value.same] using h)
      exact .string
    | _ => simp [Value.same] at h
  | list each ih =>
    cases right with
    | @list _ bs others =>
      rw [Value.same, Value.sameItems_iff] at h
      exact .list h.1 fun i a b here there =>
        ih a (List.mem_of_getElem? here) (others b (List.mem_of_getElem? there))
          (h.2 i a b here there)
    | _ => simp [Value.same] at h
  | @object _ as keys each ih =>
    cases right with
    | @object _ bs keys' others =>
      rw [Value.same, Bool.and_eq_true, beq_iff_eq, Value.sameMembers_iff] at h
      obtain ⟨length, found⟩ := h
      refine .object ((Members.keys_iff keys keys').2 ⟨length, fun m member => ?_⟩) ?_
      · obtain ⟨b, there, -⟩ := found m member
        rw [there]
        rfl
      · intro key a b here there
        have member := Members.mem_of_get? here
        obtain ⟨b', there', same⟩ := found _ member
        obtain rfl := Option.some.inj (there'.symm.trans there)
        exact ih _ member (others _ (Members.mem_of_get? there)) same
    | _ => simp [Value.same] at h

theorem Value.same_of_alike {room other : Nat} {a b : Value} (left : a.Sound room)
    (right : b.Sound other) (h : a.Alike b) : a.same b = true := by
  induction h generalizing room other with
  | null => rw [Value.same]
  | bool => rw [Value.same, beq_self_eq_true]
  | number same =>
    rw [Value.same]
    exact (Number.same_iff_alike _ _).2 same
  | string => rw [Value.same, beq_self_eq_true]
  | list length _ ih =>
    cases left with
    | list each =>
      cases right with
      | list others =>
        rw [Value.same, Value.sameItems_iff]
        exact ⟨length, fun i a b here there => ih i a b here there
          (each a (List.mem_of_getElem? here)) (others b (List.mem_of_getElem? there))⟩
  | object keys _ ih =>
    cases left with
    | object unique each =>
      cases right with
      | object unique' others =>
        obtain ⟨length, found⟩ := (Members.keys_iff unique unique').1 keys
        rw [Value.same, Bool.and_eq_true, beq_iff_eq, Value.sameMembers_iff]
        refine ⟨length, fun m member => ?_⟩
        obtain ⟨b, there⟩ := Option.isSome_iff_exists.1 (found m member)
        exact ⟨b, there, ih m.1 m.2 b (Members.get?_of_mem unique member) there (each m member)
          (others _ (Members.mem_of_get? there))⟩

/-- The comparison of values that can be read tells whether they are the same. -/
theorem Value.same_iff_alike {room other : Nat} {a b : Value} (left : a.Sound room)
    (right : b.Sound other) : a.same b = true ↔ a.Alike b :=
  ⟨alike_of_same left right, same_of_alike left right⟩

end Json
end OrderReplay

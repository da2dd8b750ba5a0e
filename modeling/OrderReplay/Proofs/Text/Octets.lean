import OrderReplay.Text.Utf8

/-! Characters by their numbers, and texts by their octets: the octets of a text determine
it, and each of its characters has some. -/
namespace OrderReplay.Text

/-- What holds of the first numbers holds of the characters that have them. -/
theorem forall_below (p : Char → Prop) {bound : Nat} (h : ∀ n < bound, p (Char.ofNat n))
    {c : Char} (small : c.toNat < bound) : p c := by
  have at_c := h c.toNat small
  rwa [Char.ofNat_toNat] at at_c

/-- Characters of a kind are visible if no blank and no control is of it. -/
theorem visible_of_kind (kind : Char → Bool) (h : ∀ n < 0x21, kind (Char.ofNat n) = false)
    {c : Char} (given : kind c = true) : 0x20 < c.toNat := by
  apply Nat.lt_of_not_le
  intro blank
  have other := forall_below (fun d => kind d = false) h (Nat.lt_succ_of_le blank)
  rw [given] at other
  cases other

end OrderReplay.Text

namespace OrderReplay.Text.Utf8

@[simp] theorem encode_nil : encode [] = [] := rfl

@[simp] theorem encode_append (a b : Text) : encode (a ++ b) = encode a ++ encode b :=
  List.flatMap_append

theorem encode_cons (c : Char) (text : Text) :
    encode (c :: text) = String.utf8EncodeChar c ++ encode text :=
  List.flatMap_cons

@[simp] theorem encode_singleton (c : Char) : encode [c] = String.utf8EncodeChar c := by
  rw [encode_cons, encode_nil, List.append_nil]

@[simp] theorem length_encode_cons (c : Char) (text : Text) :
    (encode (c :: text)).length = c.utf8Size + (encode text).length := by
  rw [encode_cons, List.length_append, String.length_utf8EncodeChar]

theorem encode_injective {a b : Text} (same : encode a = encode b) : a = b := by
  have bytes : (String.ofList a).toByteArray = (String.ofList b).toByteArray := by
    simp only [String.toByteArray_ofList, List.utf8Encode]
    exact congrArg List.toByteArray same
  exact String.ofList_injective (String.toByteArray_inj.1 bytes)

theorem encode_length_le {a b : Text} (sub : a.Sublist b) :
    (encode a).length ≤ (encode b).length := by
  induction sub with
  | slnil => exact Nat.le_refl _
  | cons c _ ih => simp only [length_encode_cons]; omega
  | cons_cons c _ ih => simp only [length_encode_cons]; omega

/-- A text loses octets with every character it loses. -/
theorem eq_of_encode_length {a b : Text} (sub : a.Sublist b)
    (long : (encode b).length ≤ (encode a).length) : a = b := by
  induction sub with
  | slnil => rfl
  | cons c sub ih =>
    have octets := c.utf8Size_pos
    have most := encode_length_le sub
    simp only [length_encode_cons] at long
    omega
  | cons_cons c sub ih =>
    simp only [length_encode_cons] at long
    rw [ih (by omega)]

end OrderReplay.Text.Utf8

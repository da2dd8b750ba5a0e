import Mathlib.Tactic.Ring
import OrderReplay.Json.Printer
import OrderReplay.Proofs.Json.Grammar
import OrderReplay.Proofs.Json.Tokens

/-! Numerals made of the digits of a number, with the point where it falls or with a power of
ten. They denote the number times that power of ten. -/
namespace OrderReplay.Json

theorem Digits.append {a b : Text} (first : Digits a) (second : Digits b) : Digits (a ++ b) :=
  List.forall_mem_append.2 ⟨first, second⟩

theorem foldl_digits (n : Nat) (digits : Text) :
    digits.foldl (fun n c => n * 10 + (Text.digit? c).getD 0) n =
      n * 10 ^ digits.length + ofDigits digits := by
  induction digits generalizing n with
  | nil => simp [ofDigits]
  | cons c rest ih =>
    rw [ofDigits, List.foldl_cons, List.foldl_cons, ih, ih (0 * 10 + _), List.length_cons]
    ring

theorem shift_cons {c : Char} {d : Nat} (digit : Text.digit? c = some d) (n : Nat) (rest : Text) :
    n * 10 ^ (c :: rest).length + ofDigits (c :: rest) =
      (n * 10 + d) * 10 ^ rest.length + ofDigits rest := by
  rw [← foldl_digits, ← foldl_digits, List.foldl_cons, digit]
  rfl

theorem ofDigits_append (a b : Text) :
    ofDigits (a ++ b) = ofDigits a * 10 ^ b.length + ofDigits b := by
  rw [ofDigits, List.foldl_append, foldl_digits]
  rfl

theorem ofDigits_zeros (count : Nat) : ofDigits (List.replicate count '0') = 0 := by
  induction count with
  | zero => rfl
  | succ count ih =>
    rw [List.replicate_succ', ofDigits_append, ih]
    rfl

theorem digits_zeros (count : Nat) : Digits (List.replicate count '0') := by
  intro c member
  rw [List.eq_of_mem_replicate member]
  rfl

theorem ofNat_single {n : Nat} (h : n < 10) : Text.ofNat n = [Nat.digitChar n] :=
  Nat.toDigits_of_lt_base h

theorem ofNat_more {n : Nat} (h : 10 ≤ n) :
    Text.ofNat n = Text.ofNat (n / 10) ++ [Nat.digitChar (n % 10)] :=
  Nat.toDigits_of_base_le (by decide) h

theorem exists_ofNat_cons (n : Nat) : ∃ c rest, Text.ofNat n = c :: rest :=
  List.exists_cons_of_ne_nil Nat.toDigits_ne_nil

theorem digits_ofNat (n : Nat) : Digits (Text.ofNat n) := by
  induction n using Nat.strongRecOn with
  | _ n ih =>
    by_cases single : n < 10
    · rw [ofNat_single single]
      simp [Digits, Numeral.digit?_digitChar single]
    · have front := ih (n / 10) (by omega)
      have last := Numeral.digit?_digitChar (Nat.mod_lt n (by decide : 0 < 10))
      rw [ofNat_more (by omega)]
      exact front.append (by simp [Digits, last])

theorem head?_ofNat {n : Nat} (positive : 0 < n) : (Text.ofNat n).head? ≠ some '0' := by
  induction n using Nat.strongRecOn with
  | _ n ih =>
    by_cases single : n < 10
    · rw [ofNat_single single]
      intro zero
      have digit := Numeral.digit?_digitChar single
      rw [Option.some.inj zero] at digit
      obtain rfl : 0 = n := Option.some.inj digit
      exact absurd positive (Nat.lt_irrefl 0)
    · have front := ih (n / 10) (by omega) (by omega)
      obtain ⟨c, rest, digits⟩ := exists_ofNat_cons (n / 10)
      rw [digits] at front
      rw [ofNat_more (by omega), digits]
      exact front

theorem ofDigits_ofNat (n : Nat) : ofDigits (Text.ofNat n) = n := by
  induction n using Nat.strongRecOn with
  | _ n ih =>
    by_cases single : n < 10
    · rw [ofNat_single single]
      simp [ofDigits, Numeral.digit?_digitChar single]
    · have last := Numeral.digit?_digitChar (Nat.mod_lt n (by decide : 0 < 10))
      have here : ofDigits [Nat.digitChar (n % 10)] = n % 10 := by simp [ofDigits, last]
      rw [ofNat_more (by omega), ofDigits_append, ih (n / 10) (by omega), here]
      exact Nat.div_add_mod' n 10

namespace Numeral

def inPlaces (negative : Bool) (digits : Text) : Int → Numeral
  | .negSucc below => ⟨negative, ['0'], some (List.replicate below '0' ++ digits), none⟩
  | .ofNat above =>
    let whole := digits.take (above + 1) ++ List.replicate (above + 1 - digits.length) '0'
    let fraction := digits.drop (above + 1)
    ⟨negative, whole, some (if fraction = [] then ['0'] else fraction), none⟩

def withPower (negative : Bool) (digits : Text) (place : Int) : Numeral :=
  ⟨negative, digits.take 1, if digits.drop 1 = [] then none else some (digits.drop 1),
    some ⟨false, some (place < 0), Text.ofNat place.natAbs⟩⟩

theorem inPlaces_text (negative : Bool) (digits : Text) (place : Int) :
    (inPlaces negative digits place).text =
      (if negative then ['-'] else []) ++ Binary64.inPlaces digits place := by
  cases place with
  | negSucc below => cases negative <;> simp [inPlaces, text, Binary64.inPlaces]
  | ofNat above =>
    cases rest : digits.drop (above + 1) <;> cases negative <;>
      simp [inPlaces, text, Binary64.inPlaces, rest]

theorem withPower_text (negative : Bool) (digits : Text) (place : Int) :
    (withPower negative digits place).text =
      (if negative then ['-'] else []) ++ Binary64.withPower digits place := by
  have power : Power.text ⟨false, some (place < 0), Text.ofNat place.natAbs⟩ =
      'e' :: (if place < 0 then '-' else '+') :: Text.ofNat place.natAbs := by
    by_cases below : place < 0 <;> simp [Power.text, below]
  rcases digits with _ | ⟨first, _ | ⟨second, rest⟩⟩ <;> cases negative <;>
    simp [withPower, text, power, Binary64.withPower, Binary64.style]

/-- Digits with a leading zero only where they are that zero in the place of the ones. -/
theorem inPlaces_lawful (negative : Bool) {n : Nat} {place : Int} (h : 0 < n ∨ n = 0 ∧ place = 0) :
    (inPlaces negative (Text.ofNat n) place).Lawful := by
  have digits := digits_ofNat n
  obtain ⟨c, rest, shape⟩ := exists_ofNat_cons n
  cases place with
  | negSucc below =>
    refine ⟨by simp [inPlaces, Digits, Text.digit?], by simp [inPlaces], fun _ => rfl, ?_,
      by simp [inPlaces]⟩
    intro f member
    cases member
    exact ⟨(digits_zeros below).append digits, by simp [shape]⟩
  | ofNat above =>
    have front : Digits ((Text.ofNat n).take (above + 1)) :=
      fun c member => digits c (List.mem_of_mem_take member)
    have behind : Digits ((Text.ofNat n).drop (above + 1)) :=
      fun c member => digits c (List.mem_of_mem_drop member)
    refine ⟨front.append (digits_zeros _), by simp [inPlaces, shape], ?_, ?_, by simp [inPlaces]⟩
    · intro zero
      have first : (Text.ofNat n).head? = some '0' := by
        simpa [inPlaces, shape] using zero
      rcases h with positive | ⟨rfl, ones⟩
      · exact absurd first (head?_ofNat positive)
      · obtain rfl : above = 0 := Int.ofNat.inj ones
        rfl
    · intro f member
      obtain rfl := Option.some.inj member
      split
      · exact ⟨by simp [Digits, Text.digit?], by simp⟩
      next more => exact ⟨behind, more⟩

theorem withPower_lawful (negative : Bool) {n : Nat} (positive : 0 < n) (place : Int) :
    (withPower negative (Text.ofNat n) place).Lawful := by
  have digits := digits_ofNat n
  have first := head?_ofNat positive
  obtain ⟨c, rest, shape⟩ := exists_ofNat_cons n
  rw [shape] at digits first
  refine ⟨?_, by simp [withPower, shape], ?_, ?_, ?_⟩
  · have here : Digits [c] := fun d member => digits d (by simp_all)
    simpa [withPower, shape] using here
  · intro zero
    have zero : c = '0' := by simpa [withPower, shape] using zero
    rw [zero] at first
    exact absurd rfl first
  · intro f member
    have behind : rest ≠ [] ∧ rest = f := by simpa [withPower, shape] using member
    obtain ⟨more, rfl⟩ := behind
    exact ⟨fun d member => digits d (List.mem_cons_of_mem _ member), more⟩
  · intro p member
    obtain rfl := Option.some.inj member
    exact ⟨digits_ofNat _, Nat.toDigits_ne_nil⟩

theorem inPlaces_value (negative : Bool) {n : Nat} {place exponent : Int}
    (h : place = exponent + ((Text.ofNat n).length - 1)) :
    (inPlaces negative (Text.ofNat n) place).value =
      (bif negative then -1 else 1) * n * 10 ^ exponent := by
  have whole := ofDigits_ofNat n
  generalize Text.ofNat n = digits at whole h
  cases place with
  | negSucc below =>
    have significand : ofDigits (['0'] ++ (List.replicate below '0' ++ digits)) = n := by
      rw [ofDigits_append, ofDigits_append, ofDigits_zeros, whole]
      simp [ofDigits, Text.digit?]
    have behind : exponent = -((List.replicate below '0' ++ digits).length : Int) := by
      rw [List.length_append, List.length_replicate]
      omega
    simp only [value, Numeral.significand, Numeral.exponent, inPlaces, Option.getD_some,
      significand, Option.elim_none, zero_sub, ← behind]
  | ofNat above =>
    have place : (above : Int) = exponent + (digits.length - 1) := h
    by_cases short : digits.drop (above + 1) = []
    · have fits : digits.length ≤ above + 1 := List.drop_eq_nil_iff.1 short
      obtain ⟨zeros, same⟩ : ∃ zeros : Nat, above + 1 - digits.length = zeros := ⟨_, rfl⟩
      have significand : ofDigits (digits ++ List.replicate zeros '0' ++ ['0']) =
          n * 10 ^ zeros * 10 := by
        rw [ofDigits_append, ofDigits_append, ofDigits_zeros, whole]
        simp [ofDigits, Text.digit?]
      obtain rfl : exponent = zeros := by omega
      simp only [value, Numeral.significand, Numeral.exponent, inPlaces, if_pos short, same,
        List.take_of_length_le fits, Option.getD_some, significand]
      simp only [Option.elim_none, List.length_singleton, zpow_natCast, Nat.cast_mul, Nat.cast_pow,
        Nat.cast_ofNat, Nat.cast_one, zero_sub, zpow_neg_one]
      ring
    · have more : above + 1 < digits.length :=
        Nat.lt_of_not_le fun fits => short (List.drop_eq_nil_iff.2 fits)
      have none : above + 1 - digits.length = 0 := by omega
      have behind : exponent = -((digits.drop (above + 1)).length : Int) := by
        rw [List.length_drop]
        omega
      simp only [value, Numeral.significand, Numeral.exponent, inPlaces, if_neg short, none,
        List.replicate_zero, List.append_nil, Option.getD_some, List.take_append_drop, whole,
        Option.elim_none, zero_sub, ← behind]

theorem withPower_value (negative : Bool) {n : Nat} {place exponent : Int}
    (h : place = exponent + ((Text.ofNat n).length - 1)) :
    (withPower negative (Text.ofNat n) place).value =
      (bif negative then -1 else 1) * n * 10 ^ exponent := by
  have whole := ofDigits_ofNat n
  obtain ⟨c, rest, shape⟩ := exists_ofNat_cons n
  rw [shape, List.length_cons] at h
  have power : Power.value ⟨false, some (place < 0), Text.ofNat place.natAbs⟩ = place := by
    simp only [Power.value, ofDigits_ofNat, Option.some.injEq, decide_eq_true_eq]
    split <;> omega
  have significand : (withPower negative (Text.ofNat n) place).significand = n := by
    cases rest <;> simpa [withPower, Numeral.significand, shape] using shape ▸ whole
  have behind : (withPower negative (Text.ofNat n) place).exponent = exponent := by
    have split : (withPower negative (Text.ofNat n) place).exponent = place - rest.length := by
      cases rest <;> simp [withPower, Numeral.exponent, shape, power]
    omega
  rw [value, significand, behind]
  rfl

end Numeral

end OrderReplay.Json

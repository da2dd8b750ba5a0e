import OrderReplay.Proofs.Text.Octets

/-! Characters by the octets that they are written in. The first octet tells how many stand
behind it, and those bring the number of the character six bits at a time. A character that
has begun is known by the numbers it can still have; what the decoder keeps of it describes
exactly these. -/
namespace OrderReplay.Text.Utf8

open String (utf8EncodeChar)

/-- The number that is left of a character without so many of its last octets. -/
def shifted : Nat → Nat → Nat
  | 0, v => v
  | n + 1, v => shifted n v / 64

def continuation : Nat → Nat → List UInt8
  | 0, _ => []
  | n + 1, v => UInt8.ofNat (0x80 + shifted n v % 64) :: continuation n v

theorem length_continuation (n v : Nat) : (continuation n v).length = n := by
  induction n with
  | zero => rfl
  | succ n ih => exact congrArg (· + 1) ih

theorem shifted_of_pos {n : Nat} (some : 0 < n) (v : Nat) :
    shifted n v = shifted (n - 1) v / 64 := by
  obtain ⟨m, rfl⟩ := Nat.exists_eq_succ_of_ne_zero (Nat.ne_of_gt some)
  rfl

theorem continuation_of_pos {n : Nat} (some : 0 < n) (v : Nat) : continuation n v =
    UInt8.ofNat (0x80 + shifted (n - 1) v % 64) :: continuation (n - 1) v := by
  obtain ⟨m, rfl⟩ := Nat.exists_eq_succ_of_ne_zero (Nat.ne_of_gt some)
  rfl

theorem exists_shifted (n m : Nat) : ∃ v, shifted n v = m := by
  induction n generalizing m with
  | zero => exact ⟨m, rfl⟩
  | succ n ih =>
    obtain ⟨v, is⟩ := ih (m * 64)
    refine ⟨v, ?_⟩
    rw [shifted, is]
    omega

/-- A character by its number: how many octets it has behind its first, which is what is left of
the number on top of a mark. -/
inductive Shape : Nat → Nat → Nat → Prop where
  | one {v} (high : v < 0x80) : Shape v 0 0
  | two {v} (low : 0x80 ≤ v) (high : v < 0x800) : Shape v 0xC0 1
  | three {v} (low : 0x800 ≤ v) (high : v < 0x10000) (plain : v < 0xD800 ∨ 0xDFFF < v) :
      Shape v 0xE0 2
  | four {v} (low : 0x10000 ≤ v) (high : v < 0x110000) : Shape v 0xF0 3

theorem encode_shape (c : Char) : ∃ mark n, Shape c.toNat mark n ∧
    utf8EncodeChar c = UInt8.ofNat (mark + shifted n c.toNat) :: continuation n c.toNat := by
  have valid : c.toNat < 0xD800 ∨ 0xDFFF < c.toNat ∧ c.toNat < 0x110000 := c.valid
  rw [String.utf8EncodeChar.eq_1, show c.val.toNat = c.toNat from rfl]
  split
  next => exact ⟨0, 0, .one (by omega), by simp [shifted, continuation]⟩
  split
  next =>
    refine ⟨0xC0, 1, .two (by omega) (by omega), ?_⟩
    simp only [shifted, continuation]
    rw [Nat.mod_eq_of_lt (by omega), Nat.add_comm, Nat.add_comm 0x80]
  split
  next =>
    refine ⟨0xE0, 2, .three (by omega) (by omega) (by omega), ?_⟩
    simp only [shifted, continuation, Nat.div_div_eq_div_mul, Nat.reduceMul]
    rw [Nat.mod_eq_of_lt (by omega), Nat.add_comm, Nat.add_comm 0x80, Nat.add_comm 0x80]
  next =>
    refine ⟨0xF0, 3, .four (by omega) (by omega), ?_⟩
    simp only [shifted, continuation, Nat.div_div_eq_div_mul, Nat.reduceMul]
    rw [Nat.mod_eq_of_lt (by omega), Nat.add_comm, Nat.add_comm 0x80, Nat.add_comm 0x80,
      Nat.add_comm 0x80]

theorem exists_of_shape {v mark n : Nat} (shape : Shape v mark n) :
    ∃ c : Char, c.toNat = v ∧
      utf8EncodeChar c = UInt8.ofNat (mark + shifted n v) :: continuation n v := by
  have valid : v.isValidChar := by
    cases shape <;> simp only [Nat.isValidChar] <;> omega
  have number : (Char.ofNatAux v valid).toNat = v := rfl
  obtain ⟨other, more, again, written⟩ := encode_shape (Char.ofNatAux v valid)
  rw [number] at again written
  have same : other = mark ∧ more = n := by
    cases shape <;> cases again <;> first | exact ⟨rfl, rfl⟩ | omega
  obtain ⟨rfl, rfl⟩ := same
  exact ⟨_, number, written⟩

theorem first_octet {c : Char} {octet : UInt8} (first : [octet] <+: utf8EncodeChar c) :
    ∃ mark n, Shape c.toNat mark n ∧ octet.toNat = mark + shifted n c.toNat ∧
      utf8EncodeChar c = octet :: continuation n c.toNat := by
  obtain ⟨mark, n, shape, written⟩ := encode_shape c
  rw [written, List.singleton_prefix_cons_iff] at first
  refine ⟨mark, n, shape, ?_, first ▸ written⟩
  rw [first, UInt8.toNat_ofNat']
  apply Nat.mod_eq_of_lt
  cases shape <;> simp only [shifted] <;> omega

/-- No character begins another. -/
theorem eq_of_encode_begins {c d : Char} (begins : utf8EncodeChar c <+: utf8EncodeChar d) :
    c = d := by
  obtain ⟨mark, n, shape, written⟩ := encode_shape c
  have first : [UInt8.ofNat (mark + shifted n c.toNat)] <+: utf8EncodeChar d :=
    .trans (written ▸ List.prefix_append [_] _) begins
  obtain ⟨other, m, reshape, is, rewritten⟩ := first_octet first
  have same : n = m := by
    rw [UInt8.toNat_ofNat'] at is
    cases shape <;> cases reshape <;> simp only [shifted] at is <;> omega
  have length : (utf8EncodeChar c).length = (utf8EncodeChar d).length := by
    rw [written, rewritten, List.length_cons, List.length_cons, length_continuation,
      length_continuation, same]
  have equal := begins.eq_of_length length
  have texts : encode [c] = encode [d] := by rw [encode_singleton, encode_singleton, equal]
  exact List.singleton_inj.1 (encode_injective texts)

/-- The numbers that a character may have which has begun. -/
structure Fits (p : Partial) (v : Nat) : Prop where
  bits : shifted (p.owed - 1) v / 64 = p.bits
  least : p.least ≤ 0x80 + shifted (p.owed - 1) v % 64
  greatest : 0x80 + shifted (p.owed - 1) v % 64 ≤ p.greatest

/-- Only octets that can begin no character lie within the bounds of the next one. -/
structure Bounded (p : Partial) : Prop where
  owed : 0 < p.owed
  least : 0x80 ≤ p.least
  some : p.least ≤ p.greatest
  greatest : p.greatest ≤ 0xBF

theorem exists_fits {p : Partial} (bounded : Bounded p) : ∃ v, Fits p v := by
  obtain ⟨owed, least, some, greatest⟩ := bounded
  obtain ⟨v, is⟩ := exists_shifted (p.owed - 1) (p.bits * 64 + (p.least - 0x80))
  refine ⟨v, ?_, ?_, ?_⟩ <;> rw [is] <;> omega

theorem bounded_of_lead {octet : Nat} {p : Partial} (begun : lead? octet = some p) :
    Bounded p := by
  unfold lead? at begun
  repeat' split at begun
  all_goals cases begun
  all_goals constructor <;> simp

theorem fits_of_lead {octet v mark n : Nat} {p : Partial} (begun : lead? octet = some p)
    (shape : Shape v mark n) (first : octet = mark + shifted n v) : p.owed = n ∧ Fits p v := by
  have equal : p.owed = n ∧ shifted (p.owed - 1) v / 64 = p.bits ∧
      p.least ≤ 0x80 + shifted (p.owed - 1) v % 64 ∧
      0x80 + shifted (p.owed - 1) v % 64 ≤ p.greatest := by
    unfold lead? at begun
    repeat' split at begun
    all_goals cases begun
    all_goals cases shape <;> simp only [shifted, Nat.reduceSub, true_and] at first ⊢ <;> omega
  exact ⟨equal.1, equal.2.1, equal.2.2.1, equal.2.2.2⟩

theorem shape_of_lead {octet v : Nat} {p : Partial} (begun : lead? octet = some p)
    (fits : Fits p v) : ∃ mark, Shape v mark p.owed ∧ octet = mark + shifted p.owed v := by
  obtain ⟨bits, least, greatest⟩ := fits
  unfold lead? at begun
  repeat' split at begun
  all_goals cases begun
  all_goals simp only [shifted, Nat.reduceSub] at bits least greatest ⊢
  · exact ⟨0xC0, .two (by omega) (by omega), by omega⟩
  · exact ⟨0xE0, .three (by omega) (by omega) (by omega), by omega⟩
  · exact ⟨0xE0, .three (by omega) (by omega) (by omega), by omega⟩
  · exact ⟨0xE0, .three (by omega) (by omega) (by omega), by omega⟩
  · exact ⟨0xF0, .four (by omega) (by omega), by omega⟩
  · exact ⟨0xF0, .four (by omega) (by omega), by omega⟩
  · exact ⟨0xF0, .four (by omega) (by omega), by omega⟩

/-- An octet beyond ASCII that begins nothing is the first one of no character. -/
theorem lead_of_shape {octet v mark n : Nat} (shape : Shape v mark n)
    (first : octet = mark + shifted n v) (high : 0x80 ≤ octet) : lead? octet ≠ none := by
  intro none
  unfold lead? at none
  repeat' split at none
  all_goals first
    | (cases none; done)
    | (cases shape <;> simp only [shifted] at first <;> omega)

/-- Octets that begin a character, against what is known of it. -/
structure Begun (piece : List UInt8) (p : Partial) : Prop where
  some : piece ≠ []
  bounded : Bounded p
  fits : ∀ c, piece <+: utf8EncodeChar c →
    Fits p c.toNat ∧ utf8EncodeChar c = piece ++ continuation p.owed c.toNat
  char : ∀ v, Fits p v → ∃ c : Char, c.toNat = v ∧ piece <+: utf8EncodeChar c
  unfinished : ∀ c, ¬ utf8EncodeChar c <+: piece

theorem begun_of_lead {octet : UInt8} {p : Partial} (begun : lead? octet.toNat = some p) :
    Begun [octet] p where
  some := List.cons_ne_nil octet []
  bounded := bounded_of_lead begun
  fits := by
    intro c first
    obtain ⟨mark, n, shape, is, written⟩ := first_octet first
    obtain ⟨rfl, fits⟩ := fits_of_lead begun shape is
    exact ⟨fits, written⟩
  char := by
    intro v fits
    obtain ⟨mark, shape, is⟩ := shape_of_lead begun fits
    obtain ⟨c, number, written⟩ := exists_of_shape shape
    refine ⟨c, number, ?_⟩
    rw [written, ← is, UInt8.ofNat_toNat, List.singleton_prefix_cons_iff]
  unfinished := by
    intro c within
    have first : [octet] <+: utf8EncodeChar c := by
      obtain ⟨mark, n, -, written⟩ := encode_shape c
      rw [written] at within ⊢
      rw [List.cons_prefix_cons] at within
      rw [within.1, List.singleton_prefix_cons_iff]
    obtain ⟨mark, n, shape, is, written⟩ := first_octet first
    obtain ⟨rfl, -⟩ := fits_of_lead begun shape is
    have length := within.length_le
    rw [written, List.length_cons, length_continuation, List.length_singleton] at length
    have owed := (bounded_of_lead begun).owed
    omega

variable {piece : List UInt8} {p : Partial} {octet : UInt8}

theorem Begun.next_octet (begun : Begun piece p) {c : Char}
    (more : piece ++ [octet] <+: utf8EncodeChar c) :
    Fits p c.toNat ∧ octet.toNat = 0x80 + shifted (p.owed - 1) c.toNat % 64 ∧
      utf8EncodeChar c = piece ++ octet :: continuation (p.owed - 1) c.toNat := by
  obtain ⟨fits, written⟩ := begun.fits c ((List.prefix_append piece [octet]).trans more)
  rw [continuation_of_pos begun.bounded.owed] at written
  rw [written, List.prefix_append_right_inj, List.singleton_prefix_cons_iff] at more
  refine ⟨fits, ?_, more ▸ written⟩
  rw [more, UInt8.toNat_ofNat']
  omega

theorem Begun.not_continued (begun : Begun piece p)
    (outside : ¬ (p.least ≤ octet.toNat ∧ octet.toNat ≤ p.greatest)) (c : Char) :
    ¬ piece ++ [octet] <+: utf8EncodeChar c := by
  intro more
  obtain ⟨fits, is, -⟩ := begun.next_octet more
  rw [is] at outside
  exact outside ⟨fits.least, fits.greatest⟩

/-- An octet within bounds goes on with every character whose number it brings nearer. -/
theorem Begun.continued (begun : Begun piece p) {v : Nat}
    (least : p.least ≤ octet.toNat) (greatest : octet.toNat ≤ p.greatest)
    (bits : shifted (p.owed - 1) v = p.bits * 64 + (octet.toNat - 0x80)) :
    ∃ c : Char, c.toNat = v ∧
      utf8EncodeChar c = piece ++ octet :: continuation (p.owed - 1) v := by
  obtain ⟨owed, low, -, high⟩ := begun.bounded
  have fits : Fits p v := by
    refine ⟨?_, ?_, ?_⟩ <;> rw [bits] <;> omega
  obtain ⟨c, rfl, within⟩ := begun.char v fits
  obtain ⟨-, written⟩ := begun.fits c within
  have here : UInt8.ofNat (0x80 + shifted (p.owed - 1) c.toNat % 64) = octet := by
    apply UInt8.toNat_inj.1
    rw [UInt8.toNat_ofNat', bits]
    omega
  refine ⟨c, rfl, ?_⟩
  rw [written, continuation_of_pos owed, here]

theorem Begun.complete (begun : Begun piece p) (last : p.owed ≤ 1)
    (least : p.least ≤ octet.toNat) (greatest : octet.toNat ≤ p.greatest) :
    utf8EncodeChar (Char.ofNat (p.bits * 64 + (octet.toNat - 0x80))) = piece ++ [octet] := by
  have none : p.owed - 1 = 0 := by omega
  have bits : shifted (p.owed - 1) (p.bits * 64 + (octet.toNat - 0x80)) =
      p.bits * 64 + (octet.toNat - 0x80) := by rw [none, shifted]
  obtain ⟨c, number, written⟩ := begun.continued least greatest bits
  rw [← number, Char.ofNat_toNat, written, none, continuation]

theorem Begun.next (begun : Begun piece p) (more : ¬ p.owed ≤ 1)
    (least : p.least ≤ octet.toNat) (greatest : octet.toNat ≤ p.greatest) :
    Begun (piece ++ [octet])
      ⟨p.owed - 1, 0x80, 0xBF, p.bits * 64 + (octet.toNat - 0x80)⟩ := by
  obtain ⟨-, low, -, high⟩ := begun.bounded
  have owed : 0 < p.owed - 1 := by omega
  refine ⟨by simp, ⟨owed, by simp, by simp, by simp⟩, ?_, ?_, ?_⟩
  · intro c within
    obtain ⟨fits, is, written⟩ := begun.next_octet within
    have bits := fits.bits
    rw [shifted_of_pos owed] at bits is
    refine ⟨⟨?_, ?_, ?_⟩, ?_⟩
    · dsimp only
      omega
    · dsimp only
      omega
    · dsimp only
      omega
    · rw [written, List.append_assoc, List.singleton_append]
  · intro v fits
    have bits := fits.bits
    dsimp only at bits
    rw [← shifted_of_pos owed] at bits
    obtain ⟨c, number, written⟩ := begun.continued least greatest bits
    refine ⟨c, number, ?_⟩
    rw [written, List.prefix_append_right_inj, List.singleton_prefix_cons_iff]
  · intro c within
    rcases List.prefix_concat_iff.1 within with same | earlier
    · obtain ⟨-, -, written⟩ := begun.next_octet ⟨[], (List.append_nil _).trans same.symm⟩
      rw [same, List.append_cancel_left_eq] at written
      have length := congrArg List.length written
      rw [List.length_singleton, List.length_cons, length_continuation] at length
      omega
    · exact begun.unfinished c earlier

end OrderReplay.Text.Utf8

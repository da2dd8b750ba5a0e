import Mathlib.Data.List.Infix
import OrderReplay.Proofs.Text.Encoded

/-! What is decoded, against the octets. Where a character stands in them it is read as it is;
where none stands one replacement is read for as many octets as could have begun one. An octet
of ASCII is a character wherever it stands, so that neither damage before it nor damage behind
it can swallow it, and none can feign it. -/
namespace OrderReplay.Text.Utf8

open String (utf8EncodeChar)

variable {piece : List UInt8} {p : Partial} {octet : UInt8} {c : Char}

/-- Octets in which no character stands, though they may begin one: as many of them as can
begin one, or a single octet that cannot. -/
structure Broken (piece rest : List UInt8) : Prop where
  some : piece ≠ []
  char : ∀ c, ¬ utf8EncodeChar c <+: piece ++ rest
  begins : piece.length = 1 ∨ ∃ c, piece <+: utf8EncodeChar c
  longest : ∀ octet ∈ rest.head?, ∀ c, ¬ piece ++ [octet] <+: utf8EncodeChar c

/-- A character that is broken off, whether by the octet behind it or by the end. -/
theorem Begun.broken (begun : Begun piece p) {rest : List UInt8}
    (outside : ∀ octet ∈ rest.head?, ¬ (p.least ≤ octet.toNat ∧ octet.toNat ≤ p.greatest)) :
    Broken piece rest where
  some := begun.some
  char := by
    intro c stands
    rcases List.prefix_or_prefix_of_prefix stands (List.prefix_append piece rest) with
      within | begins
    · exact begun.unfinished c within
    · obtain ⟨-, written⟩ := begun.fits c begins
      rw [continuation_of_pos begun.bounded.owed] at written
      rw [written, List.prefix_append_right_inj] at stands
      obtain ⟨tail, rfl⟩ := stands
      refine begun.not_continued (outside _ rfl) c ?_
      rw [written, List.prefix_append_right_inj, List.singleton_prefix_cons_iff]
  begins := by
    obtain ⟨v, fits⟩ := exists_fits begun.bounded
    obtain ⟨c, -, begins⟩ := begun.char v fits
    exact .inr ⟨c, begins⟩
  longest := fun octet next => begun.not_continued (outside octet next)

theorem broken_of_lead (high : 0x80 ≤ octet.toNat) (none : lead? octet.toNat = none)
    (rest : List UInt8) : Broken [octet] rest := by
  have first (c : Char) : ¬ [octet] <+: utf8EncodeChar c := by
    intro begins
    obtain ⟨mark, n, shape, is, -⟩ := first_octet begins
    exact lead_of_shape shape is high none
  refine ⟨List.cons_ne_nil octet [], ?_, .inl rfl, ?_⟩
  · intro c stands
    obtain ⟨mark, n, -, written⟩ := encode_shape c
    rw [written, List.singleton_append, List.cons_prefix_cons] at stands
    apply first c
    rw [written, stands.1, List.singleton_prefix_cons_iff]
  · intro next _ c begins
    exact first c ((List.prefix_append [octet] [next]).trans begins)

/-- How octets are read: where a character stands it is read as it is, and where none stands
one replacement is read. -/
inductive Reads : List UInt8 → Text → Prop where
  | nil : Reads [] []
  | char (c : Char) {octets : List UInt8} {text : Text} (rest : Reads octets text) :
      Reads (utf8EncodeChar c ++ octets) (c :: text)
  | broken {piece octets : List UInt8} {text : Text} (broken : Broken piece octets)
      (rest : Reads octets text) : Reads (piece ++ octets) (replacement :: text)

theorem encode_ascii (ascii : octet.toNat < 0x80) :
    utf8EncodeChar (Char.ofNat octet.toNat) = [octet] := by
  obtain ⟨c, number, written⟩ := exists_of_shape (.one ascii)
  rw [← number, Char.ofNat_toNat, written, shifted, continuation, Nat.zero_add,
    UInt8.ofNat_toNat]

theorem reads_start (octet : UInt8) {rest : List UInt8}
    (between : Reads rest (decodeFrom none rest))
    (within : ∀ piece p, Begun piece p → Reads (piece ++ rest) (decodeFrom (some p) rest)) :
    Reads (octet :: rest) ((start octet.toNat).1 ++ decodeFrom (start octet.toNat).2 rest) := by
  unfold start
  by_cases ascii : octet.toNat < 0x80
  · rw [if_pos ascii]
    have char := Reads.char (Char.ofNat octet.toNat) between
    rwa [encode_ascii ascii] at char
  · rw [if_neg ascii]
    cases lead : lead? octet.toNat with
    | none => exact .broken (broken_of_lead (by omega) lead rest) between
    | some p => exact within [octet] p (begun_of_lead lead)

/-- What is read of any octets, between characters and within one that has begun. -/
theorem reads_decodeFrom (octets : List UInt8) : Reads octets (decodeFrom none octets) ∧
    ∀ piece p, Begun piece p → Reads (piece ++ octets) (decodeFrom (some p) octets) := by
  induction octets with
  | nil =>
    refine ⟨.nil, fun piece p begun => ?_⟩
    have broken : Broken piece [] := begun.broken (by simp)
    exact .broken broken .nil
  | cons octet rest ih =>
    obtain ⟨between, within⟩ := ih
    have anew := reads_start octet between within
    refine ⟨anew, fun piece p begun => ?_⟩
    simp only [decodeFrom, step]
    by_cases inside : p.least ≤ octet.toNat ∧ octet.toNat ≤ p.greatest
    · rw [if_pos inside]
      by_cases last : p.owed ≤ 1
      · rw [if_pos last]
        have char := Reads.char
          (Char.ofNat (p.bits * 64 + (octet.toNat - 0x80))) between
        rwa [begun.complete last inside.1 inside.2, List.append_assoc] at char
      · rw [if_neg last]
        have more := within _ _ (begun.next last inside.1 inside.2)
        rwa [List.append_assoc] at more
    · rw [if_neg inside]
      refine .broken (begun.broken ?_) anew
      intro next is
      obtain rfl : octet = next := by simpa using is
      exact inside

theorem reads_decode (octets : List UInt8) : Reads octets (decode octets) :=
  (reads_decodeFrom octets).1

theorem decode_eq_nil_iff (octets : List UInt8) : decode octets = [] ↔ octets = [] := by
  constructor
  · intro nothing
    have reads := reads_decode octets
    rw [nothing] at reads
    cases reads
    rfl
  · rintro rfl
    rfl

theorem Broken.unique {piece other rest more : List UInt8} (broken : Broken piece rest)
    (again : Broken other more) (same : piece ++ rest = other ++ more) : piece = other := by
  rcases List.append_eq_append_iff.1 same with ⟨tail, whole, behind⟩ | ⟨tail, whole, behind⟩
  · cases tail with
    | nil => rw [whole, List.append_nil]
    | cons octet tail =>
      rcases again.begins with single | ⟨c, begins⟩
      · have length := List.length_pos_iff.2 broken.some
        rw [whole, List.length_append, List.length_cons] at single
        omega
      · refine absurd (.trans ?_ begins) (broken.longest octet (by simp [behind]) c)
        rw [whole, List.prefix_append_right_inj, List.singleton_prefix_cons_iff]
  · cases tail with
    | nil => rw [whole, List.append_nil]
    | cons octet tail =>
      rcases broken.begins with single | ⟨c, begins⟩
      · have length := List.length_pos_iff.2 again.some
        rw [whole, List.length_append, List.length_cons] at single
        omega
      · refine absurd (.trans ?_ begins) (again.longest octet (by simp [behind]) c)
        rw [whole, List.prefix_append_right_inj, List.singleton_prefix_cons_iff]

theorem Reads.shape {octets : List UInt8} {text : Text} (reads : Reads octets text) :
    (octets = [] ∧ text = []) ∨
    (∃ c rest more, octets = utf8EncodeChar c ++ rest ∧ text = c :: more ∧ Reads rest more) ∨
    (∃ piece rest more, Broken piece rest ∧ octets = piece ++ rest ∧
      text = replacement :: more ∧ Reads rest more) := by
  cases reads with
  | nil => exact .inl ⟨rfl, rfl⟩
  | char c rest => exact .inr (.inl ⟨c, _, _, rfl, rfl, rest⟩)
  | broken broken rest => exact .inr (.inr ⟨_, _, _, broken, rfl, rfl, rest⟩)

/-- Octets are read in one way only. -/
theorem Reads.unique {octets : List UInt8} {text other : Text} (reads : Reads octets text)
    (again : Reads octets other) : text = other := by
  have some (c : Char) : utf8EncodeChar c ≠ [] := by
    obtain ⟨mark, n, -, written⟩ := encode_shape c
    rw [written]
    exact List.cons_ne_nil _ _
  induction reads generalizing other with
  | nil =>
    rcases again.shape with ⟨-, rfl⟩ | ⟨c, rest, more, same, -, -⟩ |
      ⟨piece, rest, more, broken, same, -, -⟩
    · rfl
    · exact absurd (List.append_eq_nil_iff.1 same.symm).1 (some c)
    · exact absurd (List.append_eq_nil_iff.1 same.symm).1 broken.some
  | char c reads ih =>
    rcases again.shape with ⟨none, -⟩ | ⟨d, rest, more, same, rfl, behind⟩ |
      ⟨piece, rest, more, broken, same, -, -⟩
    · exact absurd (List.append_eq_nil_iff.1 none).1 (some c)
    · have equal : c = d := by
        rcases List.prefix_or_prefix_of_prefix (List.prefix_append (utf8EncodeChar c) _)
          (same ▸ List.prefix_append (utf8EncodeChar d) rest) with begins | begins
        · exact eq_of_encode_begins begins
        · exact (eq_of_encode_begins begins).symm
      obtain rfl := equal
      rw [List.append_cancel_left_eq] at same
      rw [ih (same ▸ behind)]
    · exact absurd (same ▸ List.prefix_append _ _) (broken.char c)
  | broken broken reads ih =>
    rcases again.shape with ⟨none, -⟩ | ⟨c, rest, more, same, -, -⟩ |
      ⟨other, rest, more, rebroken, same, rfl, behind⟩
    · exact absurd (List.append_eq_nil_iff.1 none).1 broken.some
    · exact absurd (same ▸ List.prefix_append _ _) (broken.char c)
    · obtain rfl := broken.unique rebroken same
      rw [List.append_cancel_left_eq] at same
      rw [ih (same ▸ behind)]

/-- Decoding reads octets as they are to be read, and no other text does. -/
theorem reads_iff {octets : List UInt8} {text : Text} :
    Reads octets text ↔ text = decode octets := by
  constructor
  · intro reads
    exact reads.unique (reads_decode octets)
  · rintro rfl
    exact reads_decode octets

theorem Reads.behind {octets : List UInt8} {before after : Text}
    (reads : Reads octets (before ++ after)) :
    ∃ front back, octets = front ++ back ∧ Reads back after := by
  induction before generalizing octets with
  | nil => exact ⟨[], octets, rfl, reads⟩
  | cons c before ih =>
    cases reads with
    | char _ rest =>
      obtain ⟨front, back, rfl, reads⟩ := ih rest
      exact ⟨_, back, (List.append_assoc ..).symm, reads⟩
    | broken _ rest =>
      obtain ⟨front, back, rfl, reads⟩ := ih rest
      exact ⟨_, back, (List.append_assoc ..).symm, reads⟩

/-- A text that begins what is read, and holds no replacement, was there in its own octets. -/
theorem Reads.encode_begins {octets : List UInt8} {text after : Text}
    (reads : Reads octets (text ++ after)) (whole : replacement ∉ text) :
    encode text <+: octets := by
  induction text generalizing octets with
  | nil => exact List.nil_prefix
  | cons c text ih =>
    rw [List.mem_cons, not_or] at whole
    cases reads with
    | char _ rest =>
      rw [encode_cons, List.prefix_append_right_inj]
      exact ih rest whole.2
    | broken => exact absurd rfl whole.1

/-- What is read and holds no replacement stands in the octets. -/
theorem encode_infix {octets : List UInt8} {text : Text} (within : text <:+: decode octets)
    (whole : replacement ∉ text) : encode text <:+: octets := by
  obtain ⟨before, after, split⟩ := within
  have reads := reads_decode octets
  rw [← split, List.append_assoc] at reads
  obtain ⟨front, back, rfl, rest⟩ := reads.behind
  exact (rest.encode_begins whole).isInfix.trans (List.suffix_append front back).isInfix

def IsHigh (begun? : Option Partial) : Prop := ∀ p ∈ begun?, 0x80 ≤ p.least

theorem step_isHigh {begun? : Option Partial} (high : IsHigh begun?) (octet : Nat) :
    IsHigh (step begun? octet).2 := by
  have anew : IsHigh (start octet).2 := by
    unfold start
    split
    · exact fun p is => by cases is
    · cases lead : lead? octet with
      | none => exact fun p is => by cases is
      | some p =>
        intro q is
        obtain rfl : p = q := by simpa using is
        exact (bounded_of_lead lead).least
  unfold step
  cases begun? with
  | none => exact anew
  | some p =>
    dsimp only
    split
    · split
      · exact fun p is => by cases is
      · intro q is
        obtain rfl := Option.some.inj is
        exact Nat.le_refl _
    · exact anew

/-- An octet of ASCII, and the character that it is. -/
structure IsAscii (octet : UInt8) (c : Char) : Prop where
  small : octet.toNat < 0x80
  is : Char.ofNat octet.toNat = c

/-- Decoding can be cut at any octet of ASCII: it belongs to no other character, and what is
broken off before it is broken off without it, too. -/
theorem decodeFrom_append {begun? : Option Partial} (high : IsHigh begun?)
    (ascii : IsAscii octet c) (before after : List UInt8) :
    decodeFrom begun? (before ++ octet :: after) =
      decodeFrom begun? before ++ c :: decode after := by
  obtain ⟨small, rfl⟩ := ascii
  induction before generalizing begun? with
  | nil =>
    cases begun? with
    | none => simp [decodeFrom, step, start, small, decode]
    | some p =>
      have outside : ¬ (p.least ≤ octet.toNat ∧ octet.toNat ≤ p.greatest) := by
        have := high p rfl
        omega
      simp [decodeFrom, step, start, small, decode, outside]
  | cons first before ih =>
    rw [List.cons_append, decodeFrom, decodeFrom]
    dsimp only
    rw [ih (step_isHigh high first.toNat), List.append_assoc]

theorem decode_append (ascii : IsAscii octet c) (before after : List UInt8) :
    decode (before ++ octet :: after) = decode before ++ c :: decode after :=
  decodeFrom_append (fun p is => by cases is) ascii before after

theorem encode_singleton_ascii {c : Char} (ascii : c.toNat < 0x80) :
    ∃ octet, IsAscii octet c ∧ utf8EncodeChar c = [octet] := by
  have number : (UInt8.ofNat c.toNat).toNat = c.toNat := by
    rw [UInt8.toNat_ofNat']
    omega
  have written : utf8EncodeChar (Char.ofNat (UInt8.ofNat c.toNat).toNat) =
      [UInt8.ofNat c.toNat] := encode_ascii (by rwa [number])
  rw [number, Char.ofNat_toNat] at written
  exact ⟨_, ⟨by rwa [number], by rw [number, Char.ofNat_toNat]⟩, written⟩

theorem decode_encode_append {text : Text} (ascii : ∀ c ∈ text, c.toNat < 0x80)
    (after : List UInt8) : decode (encode text ++ after) = text ++ decode after := by
  induction text with
  | nil => rfl
  | cons c text ih =>
    rw [List.forall_mem_cons] at ascii
    obtain ⟨octet, is, written⟩ := encode_singleton_ascii ascii.1
    have cut := decode_append is [] (encode text ++ after)
    rw [ih ascii.2] at cut
    rw [encode_cons, written]
    exact cut

theorem decode_within {text : Text} (some : text ≠ []) (ascii : ∀ c ∈ text, c.toNat < 0x80)
    (before after : List UInt8) :
    decode (before ++ encode text ++ after) = decode before ++ text ++ decode after := by
  obtain ⟨c, rest, rfl⟩ := List.exists_cons_of_ne_nil some
  rw [List.forall_mem_cons] at ascii
  obtain ⟨octet, is, written⟩ := encode_singleton_ascii ascii.1
  have cut := decode_append is before (encode rest ++ after)
  rw [decode_encode_append ascii.2] at cut
  rw [encode_cons, written]
  simpa using cut

/-- Text of ASCII is read exactly where its octets stand. -/
theorem infix_decode_iff {text : Text} (ascii : ∀ c ∈ text, c.toNat < 0x80)
    (octets : List UInt8) : text <:+: decode octets ↔ encode text <:+: octets := by
  constructor
  · intro within
    refine encode_infix within fun member => ?_
    exact absurd (ascii _ member) (by decide)
  · rintro ⟨before, after, rfl⟩
    by_cases none : text = []
    · rw [none]
      exact List.nil_infix
    · rw [decode_within none ascii]
      exact ⟨decode before, decode after, rfl⟩

/-- An octet of ASCII is a character where it stands, and nowhere else. -/
theorem mem_decode_iff (ascii : IsAscii octet c) (octets : List UInt8) :
    c ∈ decode octets ↔ octet ∈ octets := by
  obtain ⟨small, rfl⟩ := ascii
  have number : (Char.ofNat octet.toNat).toNat < 0x80 := by
    obtain ⟨c, is, -⟩ := exists_of_shape (.one small)
    rwa [← is, Char.ofNat_toNat, is]
  have stands : [Char.ofNat octet.toNat] <:+: decode octets ↔ [octet] <:+: octets := by
    rw [infix_decode_iff (fun c member => List.mem_singleton.1 member ▸ number),
      encode_singleton, encode_ascii small]
  rwa [List.singleton_infix_iff, List.singleton_infix_iff] at stands

theorem Reads.singleton {octets : List UInt8} {c : Char} (reads : Reads octets [c])
    (whole : c ≠ replacement) : octets = utf8EncodeChar c := by
  cases reads with
  | char _ rest =>
    cases rest
    exact List.append_nil _
  | broken => exact absurd rfl whole

/-- An octet of ASCII is the last character exactly if it is the last octet. -/
theorem getLast?_decode_iff (ascii : IsAscii octet c) (octets : List UInt8) :
    (decode octets).getLast? = some c ↔ octets.getLast? = some octet := by
  obtain ⟨small, rfl⟩ := ascii
  constructor
  · intro last
    obtain ⟨before, split⟩ := List.getLast?_eq_some_iff.1 last
    have reads := reads_decode octets
    rw [split] at reads
    obtain ⟨front, back, rfl, rest⟩ := reads.behind
    have whole : Char.ofNat octet.toNat ≠ replacement := by
      intro same
      have width := congrArg List.length (encode_ascii small)
      rw [same, List.length_singleton] at width
      exact absurd width (by decide)
    rw [rest.singleton whole, encode_ascii small, List.getLast?_concat]
  · intro last
    obtain ⟨front, rfl⟩ := List.getLast?_eq_some_iff.1 last
    rw [decode_append ⟨small, rfl⟩]
    exact List.getLast?_concat ..

end OrderReplay.Text.Utf8

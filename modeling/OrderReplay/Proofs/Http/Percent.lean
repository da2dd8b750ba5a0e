import OrderReplay.Http.Percent
import OrderReplay.Proofs.Text.Octets

/-! What percent encoding keeps: the octets that a text gives. A text gives its own
octets exactly where it holds no escape, and encoding it for a path, which never touches
an escape, changes nothing of what it gives. -/
namespace OrderReplay.Http.Percent

def isHex (c : Char) : Bool := (Text.hexDigit? c).isSome

/-- Whether a percent sign before the text would begin an escape. -/
def startsDigits : Text → Bool
  | a :: b :: _ => isHex a && isHex b
  | _ => false

def hasEscape : Text → Bool
  | [] => false
  | c :: rest => (c == '%' && startsDigits rest) || hasEscape rest

theorem hasEscape_of_not_mem {text : Text} (free : '%' ∉ text) : hasEscape text = false := by
  induction text with
  | nil => rfl
  | cons c rest ih =>
    simp only [List.mem_cons, not_or] at free
    simp [hasEscape, Ne.symm free.1, ih free.2]

theorem startsDigits_of_not_hex {c : Char} (other : isHex c = false) (rest : Text) :
    startsDigits (c :: rest) = false := by
  cases rest with
  | nil => rfl
  | cons d rest => simp [startsDigits, other]

theorem isHex_ascii {c : Char} (hex : isHex c = true) : c.toNat < 128 := by
  have least (d : Char) (small : d.toNat < 128) (le : c ≤ d) : c.toNat < 128 :=
    Nat.lt_of_le_of_lt le small
  unfold isHex Text.hexDigit? at hex
  split at hex
  case isTrue digit => exact least '9' (by decide) digit.2
  case isFalse =>
    split at hex
    case isTrue digit => exact least 'f' (by decide) digit.2
    case isFalse =>
      split at hex
      case isTrue digit => exact least 'F' (by decide) digit.2
      case isFalse => cases hex

/-! ### Reading -/

theorem decode_escape {a b : Char} (rest : Text) (high : isHex a = true) (low : isHex b = true) :
    ∃ octet, decode ('%' :: a :: b :: rest) = octet :: decode rest := by
  obtain ⟨m, first⟩ := Option.isSome_iff_exists.1 high
  obtain ⟨n, second⟩ := Option.isSome_iff_exists.1 low
  exact ⟨_, by rw [decode, first, second]⟩

theorem decode_percent {rest : Text} (plain : startsDigits rest = false) :
    decode ('%' :: rest) = Text.Utf8.encode ['%'] ++ decode rest := by
  match rest, plain with
  | [], _ => rfl
  | [_], _ => rfl
  | a :: b :: rest, plain =>
    rw [decode]
    cases high : Text.hexDigit? a with
    | none => rfl
    | some _ =>
      cases low : Text.hexDigit? b with
      | none => rfl
      | some _ => simp [startsDigits, isHex, high, low] at plain

theorem decode_other {c : Char} (rest : Text) (other : c ≠ '%') :
    decode (c :: rest) = Text.Utf8.encode [c] ++ decode rest := by
  match rest with
  | [] => rw [decode]; simp
  | [_] => rw [decode]; simp
  | _ :: _ :: _ => rw [decode]; simp [other]

/-- A text is read by its first character or by its first escape. -/
theorem decode_induction {motive : Text → Prop} (nil : motive [])
    (escape : ∀ a b rest, isHex a = true → isHex b = true → motive rest →
      motive ('%' :: a :: b :: rest))
    (char : ∀ c rest, (c == '%' && startsDigits rest) = false → motive rest → motive (c :: rest)) :
    ∀ text, motive text
  | [] => nil
  | [c] => char c [] (by simp [startsDigits]) nil
  | [c, d] => char c [d] (by simp [startsDigits]) (char d [] (by simp [startsDigits]) nil)
  | c :: a :: b :: rest => by
    cases begins : (c == '%' && startsDigits (a :: b :: rest)) with
    | true =>
      simp only [startsDigits, Bool.and_eq_true, beq_iff_eq] at begins
      obtain ⟨rfl, high, low⟩ := begins
      exact escape a b rest high low (decode_induction nil escape char rest)
    | false => exact char c _ begins (decode_induction nil escape char (a :: b :: rest))

theorem decode_char {c : Char} {rest : Text} (plain : (c == '%' && startsDigits rest) = false) :
    decode (c :: rest) = Text.Utf8.encode [c] ++ decode rest := by
  by_cases percent : c = '%'
  · subst percent
    exact decode_percent (by simpa using plain)
  · exact decode_other rest percent

theorem decode_length_le (text : Text) :
    (decode text).length ≤ (Text.Utf8.encode text).length := by
  induction text using decode_induction with
  | nil => exact Nat.le_refl _
  | escape a b rest high low ih =>
    obtain ⟨octet, read⟩ := decode_escape rest high low
    have octets := Char.utf8Size_pos '%'
    rw [read]
    simp only [List.length_cons, Text.Utf8.length_encode_cons]
    omega
  | char c rest plain ih =>
    rw [decode_char plain]
    simp only [List.length_append, Text.Utf8.length_encode_cons, Text.Utf8.encode_nil,
      List.length_nil]
    omega

/-- Nothing but escapes makes a text give fewer octets than it has. -/
theorem hasEscape_of_short {text : Text} (escape : hasEscape text = true) :
    (decode text).length < (Text.Utf8.encode text).length := by
  induction text using decode_induction with
  | nil => cases escape
  | escape a b rest high low _ =>
    obtain ⟨octet, read⟩ := decode_escape rest high low
    have most := decode_length_le rest
    have octets := Char.utf8Size_pos '%'
    have first := Char.utf8Size_pos a
    rw [read]
    simp only [List.length_cons, Text.Utf8.length_encode_cons]
    omega
  | char c rest plain ih =>
    have later : hasEscape rest = true := by simpa [hasEscape, plain] using escape
    have less := ih later
    rw [decode_char plain]
    simp only [List.length_append, Text.Utf8.length_encode_cons, Text.Utf8.encode_nil,
      List.length_nil]
    omega

theorem decode_eq_encode {text : Text} (plain : hasEscape text = false) :
    decode text = Text.Utf8.encode text := by
  induction text with
  | nil => rfl
  | cons c rest ih =>
    simp only [hasEscape, Bool.or_eq_false_iff] at plain
    rw [decode_char plain.1, ih plain.2, ← Text.Utf8.encode_append]
    rfl

/-! ### Encoding -/

structure KeepsEscapes (reserved : Reserved) : Prop where
  percent : reserved '%' = false
  digits : ∀ c, isHex c = true → reserved c = false

theorem path_keepsEscapes : KeepsEscapes path where
  percent := by decide
  digits c hex :=
    Text.forall_below (fun d => isHex d = true → path d = false) (by decide) (isHex_ascii hex) hex

theorem octetDigits_hex (octet : UInt8) : ∃ a b m n, octetDigits octet = [a, b] ∧
    Text.hexDigit? a = some m ∧ Text.hexDigit? b = some n ∧ m * 16 + n = octet.toNat := by
  have digit : ∀ n < 16,
      Text.hexDigit? (if n < 10 then Char.ofNat (48 + n) else Char.ofNat (55 + n)) = some n := by
    decide
  have small : octet.toNat < 256 := octet.toNat_lt
  exact ⟨_, _, octet.toNat / 16, octet.toNat % 16, rfl, digit _ (by omega), digit _ (by omega),
    by omega⟩

theorem encodeChar_reserved {reserved : Reserved} {c : Char} (held : reserved c = true) :
    ∃ rest, encodeChar reserved c = '%' :: rest := by
  have octets : 0 < (String.utf8EncodeChar c).length := by
    rw [String.length_utf8EncodeChar]
    exact c.utf8Size_pos
  obtain ⟨octet, others, shape⟩ := List.exists_cons_of_length_pos octets
  exact ⟨_, by simp only [encodeChar, held, if_true, Text.Utf8.encode_singleton, shape,
    List.flatMap_cons, List.cons_append]; rfl⟩

theorem encodeChar_free {reserved : Reserved} {c : Char} (free : reserved c = false) :
    encodeChar reserved c = [c] := by
  simp [encodeChar, free]

@[simp] theorem encode_nil (reserved : Reserved) : encode reserved [] = [] := rfl

theorem encode_cons (reserved : Reserved) (c : Char) (rest : Text) :
    encode reserved (c :: rest) = encodeChar reserved c ++ encode reserved rest :=
  List.flatMap_cons

/-- Every character of an encoded text is one of its own that is not reserved, or is part
of an escape. -/
theorem mem_encode {reserved : Reserved} {text : Text} {c : Char}
    (member : c ∈ encode reserved text) :
    c = '%' ∨ isHex c = true ∨ (c ∈ text ∧ reserved c = false) := by
  obtain ⟨d, inside, shown⟩ := List.mem_flatMap.1 member
  cases held : reserved d with
  | false =>
    rw [encodeChar_free held, List.mem_singleton] at shown
    exact .inr (.inr ⟨shown ▸ inside, shown ▸ held⟩)
  | true =>
    simp only [encodeChar, held, if_true] at shown
    obtain ⟨octet, -, sign⟩ := List.mem_flatMap.1 shown
    obtain ⟨a, b, m, n, digits, high, low, -⟩ := octetDigits_hex octet
    rw [digits] at sign
    simp only [List.mem_cons, List.not_mem_nil, or_false] at sign
    rcases sign with rfl | rfl | rfl
    · exact .inl rfl
    · exact .inr (.inl (by simp [isHex, high]))
    · exact .inr (.inl (by simp [isHex, low]))

theorem decode_octets (octets : List UInt8) (rest : Text) :
    decode ((octets.flatMap fun octet => '%' :: octetDigits octet) ++ rest) =
      octets ++ decode rest := by
  induction octets with
  | nil => rfl
  | cons octet others ih =>
    obtain ⟨a, b, m, n, digits, high, low, value⟩ := octetDigits_hex octet
    simp only [List.flatMap_cons, digits, List.cons_append, List.nil_append]
    rw [decode, high, low]
    simp only [value, UInt8.ofNat_toNat, ih]

section
variable {reserved : Reserved} (keeps : KeepsEscapes reserved)
include keeps

theorem startsDigits_encode (text : Text) :
    startsDigits (encode reserved text) = startsDigits text := by
  have unread (c : Char) (held : reserved c = true) : isHex c = false := by
    cases hex : isHex c with
    | false => rfl
    | true => rw [keeps.digits c hex] at held; cases held
  have percent : isHex '%' = false := by decide
  match text with
  | [] => rfl
  | a :: rest =>
    rw [encode_cons]
    cases first : reserved a with
    | true =>
      obtain ⟨shown, shape⟩ := encodeChar_reserved first
      rw [shape, List.cons_append, startsDigits_of_not_hex percent,
        startsDigits_of_not_hex (unread a first)]
    | false =>
      rw [encodeChar_free first]
      match rest with
      | [] => rfl
      | b :: rest =>
        rw [encode_cons]
        cases second : reserved b with
        | true =>
          obtain ⟨shown, shape⟩ := encodeChar_reserved second
          rw [shape]
          simp [startsDigits, percent, unread b second]
        | false =>
          rw [encodeChar_free second]
          rfl

theorem decode_encode (text : Text) : decode (encode reserved text) = decode text := by
  induction text using decode_induction with
  | nil => rfl
  | escape a b rest high low ih =>
    rw [encode_cons, encode_cons, encode_cons, encodeChar_free keeps.percent,
      encodeChar_free (keeps.digits a high), encodeChar_free (keeps.digits b low)]
    obtain ⟨m, first⟩ := Option.isSome_iff_exists.1 high
    obtain ⟨n, second⟩ := Option.isSome_iff_exists.1 low
    simp only [List.cons_append, List.nil_append]
    rw [decode, decode, first, second, ih]
  | char c rest plain ih =>
    rw [encode_cons, decode_char plain, ← ih]
    cases held : reserved c with
    | true =>
      simp only [encodeChar, held, if_true]
      exact decode_octets _ _
    | false =>
      rw [encodeChar_free held]
      rw [List.singleton_append]
      exact decode_char (by rw [startsDigits_encode keeps]; exact plain)

end
end OrderReplay.Http.Percent

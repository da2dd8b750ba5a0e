import OrderReplay.Proofs.Payload.Bounds
import OrderReplay.Proofs.Text.Decoded

/-! Lines that cannot be decoded as they stand. What a line reports, and where its payload lies,
is told by characters of ASCII alone, and these are read exactly where their octets stand. So a
line could as well be filtered, and its payload marked off, before it is decoded. -/
namespace OrderReplay

open Text.Utf8 (decode encode IsAscii Reads decode_append mem_decode_iff)

namespace Payload

def opening : UInt8 := 0x7B
def closing : UInt8 := 0x7D

/-- The octets from the first opening brace through the last closing one behind it. -/
def Outermost (octets extent : List UInt8) : Prop :=
  ∃ before inner behind, extent = opening :: inner ++ [closing] ∧
    octets = before ++ extent ++ behind ∧ opening ∉ before ∧ closing ∉ behind

theorem opening_ascii : IsAscii opening '\x7b' := ⟨by decide, rfl⟩
theorem closing_ascii : IsAscii closing '\x7d' := ⟨by decide, rfl⟩

/-- What lies between the outermost braces is found, and decoded as it would be alone. -/
theorem outerBraces_of_outermost {octets extent : List UInt8} (lies : Outermost octets extent) :
    outerBraces (decode octets) = some (decode extent) := by
  obtain ⟨before, inner, behind, rfl, rfl, fresh, silent⟩ := lies
  have alone : decode (opening :: inner ++ [closing]) = '\x7b' :: decode inner ++ ['\x7d'] := by
    have first := decode_append opening_ascii [] (inner ++ [closing])
    rwa [decode_append closing_ascii] at first
  have whole : decode (before ++ (opening :: inner ++ [closing]) ++ behind) =
      decode before ++ decode (opening :: inner ++ [closing]) ++ decode behind := by
    have first := decode_append opening_ascii before (inner ++ closing :: behind)
    rw [decode_append closing_ascii] at first
    rw [alone]
    simpa using first
  rw [whole]
  apply outerBraces_of_braces
  · rw [alone]
    rfl
  · rw [alone, List.getLast?_concat]
  · rwa [mem_decode_iff opening_ascii]
  · rwa [mem_decode_iff closing_ascii]

theorem exists_outermost (before inner behind : List UInt8) :
    ∃ extent, Outermost (before ++ opening :: inner ++ closing :: behind) extent := by
  have opens : opening ∈ before ++ [opening] := by simp
  have closes : closing ∈ closing :: behind := List.mem_cons_self
  obtain ⟨front, rest, first, fresh⟩ := List.eq_append_cons_of_mem opens
  obtain ⟨others, back, last, silent⟩ := exists_last closes
  refine ⟨opening :: (rest ++ inner ++ others) ++ [closing], front, rest ++ inner ++ others, back,
    rfl, ?_, fresh, silent⟩
  calc before ++ opening :: inner ++ closing :: behind
    _ = (before ++ [opening]) ++ inner ++ (closing :: behind) := by simp
    _ = (front ++ opening :: rest) ++ inner ++ (others ++ closing :: back) := by rw [first, last]
    _ = _ := by simp

/-- Without a closing brace behind an opening one nothing is found. -/
theorem outerBraces_eq_none {octets : List UInt8}
    (apart : ¬ ∃ before inner behind, octets = before ++ opening :: inner ++ closing :: behind) :
    outerBraces (decode octets) = none := by
  by_cases opens : opening ∈ octets
  · obtain ⟨before, rest, rfl, fresh⟩ := List.eq_append_cons_of_mem opens
    have silent : '\x7d' ∉ '\x7b' :: decode rest := by
      intro member
      have closes : closing ∈ rest := by
        rw [← mem_decode_iff closing_ascii]
        simpa using member
      obtain ⟨inner, behind, rfl⟩ := List.append_of_mem closes
      exact apart ⟨before, inner, behind, by simp⟩
    have clear : '\x7b' ∉ decode before := by rwa [mem_decode_iff opening_ascii]
    rw [decode_append opening_ascii, outerBraces, dropWhile_brace clear]
    exact (throughLast_eq_none_iff _ _).2 silent
  · have none : (decode octets).dropWhile (· ≠ '\x7b') = [] := by
      rw [← List.append_nil (decode octets), List.dropWhile_append_of_pos]
      · rfl
      · intro c member
        apply decide_eq_true
        rintro rfl
        exact opens ((mem_decode_iff opening_ascii octets).1 member)
    rw [outerBraces, none, throughLast]

end Payload

namespace FailureLine

open Payload (opening closing Outermost outerBraces)

theorem marker_ascii : ∀ c ∈ marker, c.toNat < 0x80 := by
  have all : (marker.all fun c => c.toNat < 0x80) = true := by decide
  simpa using List.all_eq_true.1 all

/-- A line of any octets whatever, and its text. It reports a failed update exactly if the octets
of the marker stand in it. Its payload has no place exactly if no closing brace stands behind
an opening one, octet by octet; otherwise it is what is read between the outermost braces, and
there is only one text to be read there: every character that stands in the octets, and one
replacement wherever none stands. -/
theorem undecodable_line (octets : List UInt8) :
    (isFailure (decode octets) = true ↔ encode marker <:+: octets) ∧
    (outerBraces (decode octets) = none ↔
      ¬ ∃ before inner behind, octets = before ++ opening :: inner ++ closing :: behind) ∧
    ∀ payload, outerBraces (decode octets) = some payload ↔
      ∃ extent, Outermost octets extent ∧ payload = decode extent ∧
        ∀ text, Reads extent text ↔ text = payload := by
  have found {extent : List UInt8} (lies : Outermost octets extent) :=
    Payload.outerBraces_of_outermost lies
  refine ⟨?_, ?_, fun payload => ?_⟩
  · rw [isFailure, Text.occurs_iff]
    exact Text.Utf8.infix_decode_iff marker_ascii octets
  · constructor
    · rintro none ⟨before, inner, behind, rfl⟩
      obtain ⟨extent, lies⟩ := Payload.exists_outermost before inner behind
      rw [found lies] at none
      cases none
    · exact Payload.outerBraces_eq_none
  · constructor
    · intro some
      have together : ∃ before inner behind,
          octets = before ++ opening :: inner ++ closing :: behind := by
        by_contra apart
        rw [Payload.outerBraces_eq_none apart] at some
        cases some
      obtain ⟨before, inner, behind, rfl⟩ := together
      obtain ⟨extent, lies⟩ := Payload.exists_outermost before inner behind
      rw [found lies] at some
      obtain rfl := Option.some.inj some
      exact ⟨extent, lies, rfl, fun text => Text.Utf8.reads_iff⟩
    · rintro ⟨extent, lies, rfl, -⟩
      exact found lies

end FailureLine
end OrderReplay

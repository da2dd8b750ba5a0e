import OrderReplay.Proofs.Log.Runs
import OrderReplay.Proofs.Text.Decoded
import OrderReplay.Proofs.Text.Pieces

/-! A log decoded as one text. A line feed is a character exactly where its octet stands, and
what it breaks off would be broken off by the end of the line as well. So it makes no difference
whether the text is cut into lines or the octets are, before each line is decoded alone. -/
namespace OrderReplay

namespace Text

def chomp (text : Text) : Text := if text.getLast? = some '\r' then text.dropLast else text

/-- The lines of a text: what stands before each line feed, without the carriage return directly
before it, and what stands behind the last one, unless it is empty. -/
def lines (text : Text) : List Text :=
  (pieces '\n' text).dropLast.map chomp ++
    match (pieces '\n' text).getLastD [] with
    | [] => []
    | last => [last]

theorem lines_plain {text : Text} (plain : '\n' ∉ text) :
    lines text = if text.isEmpty then [] else [text] := by
  rw [lines, pieces_plain plain]
  cases text <;> rfl

theorem lines_append {front : Text} (plain : '\n' ∉ front) (rest : Text) :
    lines (front ++ '\n' :: rest) = chomp front :: lines rest := by
  obtain ⟨piece, others, shape⟩ := List.exists_cons_of_ne_nil (pieces_ne_nil '\n' rest)
  simp only [lines, pieces_append plain, shape, List.dropLast_cons_cons, List.map_cons,
    List.cons_append, List.getLastD_cons]

end Text

namespace Log

open Text.Utf8 (decode IsAscii Reads decode_append mem_decode_iff)

theorem lineFeed_ascii : IsAscii lineFeed '\n' := ⟨by decide, rfl⟩
theorem carriageReturn_ascii : IsAscii carriageReturn '\r' := ⟨by decide, rfl⟩

theorem decode_chomp (octets : List UInt8) :
    decode (chomp octets) = Text.chomp (decode octets) := by
  have last : (decode octets).getLast? = some '\r' ↔ octets.getLast? = some carriageReturn :=
    Text.Utf8.getLast?_decode_iff carriageReturn_ascii octets
  by_cases returns : octets.getLast? = some carriageReturn
  · rw [chomp, if_pos returns, Text.chomp, if_pos (last.2 returns)]
    obtain ⟨front, rfl⟩ := List.getLast?_eq_some_iff.1 returns
    have cut : decode (front ++ [carriageReturn]) = decode front ++ ['\r'] :=
      decode_append carriageReturn_ascii front []
    rw [cut, List.dropLast_concat, List.dropLast_concat]
  · rw [chomp, if_neg returns, Text.chomp, if_neg (mt last.1 returns)]

theorem lines_decode (octets : List UInt8) :
    Text.lines (decode octets) = terminated octets ++ leftover octets := by
  induction octets using Text.marks_induction lineFeed with
  | plain octets clean =>
    have plain : '\n' ∉ decode octets := by rwa [mem_decode_iff lineFeed_ascii]
    have empty : (decode octets).isEmpty = octets.isEmpty := by
      rw [Bool.eq_iff_iff, List.isEmpty_iff, List.isEmpty_iff]
      exact Text.Utf8.decode_eq_nil_iff octets
    rw [Text.lines_plain plain, empty, terminated_of_not_mem clean, leftover_of_not_mem clean,
      List.nil_append]
  | first line after clean ih =>
    have plain : '\n' ∉ decode line := by rwa [mem_decode_iff lineFeed_ascii]
    rw [decode_append lineFeed_ascii, Text.lines_append plain, terminated_append clean,
      leftover_append clean, decode_chomp, ih, List.cons_append]

theorem Stream.exists_portions {stream : Stream} (whole : stream.fault? = none) :
    ∃ portions : List (List UInt8), stream = portions.map .octets := by
  obtain ⟨runs, last, rfl⟩ := exists_ofRuns stream
  cases runs with
  | nil => exact ⟨last, rfl⟩
  | cons run runs =>
    rw [ofRuns, List.foldr_cons, fault?_broken] at whole
    cases whole

/-- A log without read errors against the one text that all its octets are read as, whatever the
portions in which they arrive. The lines of this text are handed out one by one, in their order
and numbered from one, and nothing else is: every further call finds the end. -/
theorem Reader.decoded_at_once {stream : Stream} (whole : stream.fault? = none) :
    let text := decode stream.octets
    let lines := Text.lines text
    (∀ other, Reads stream.octets other ↔ other = text) ∧
    ∀ n, (Reader.ofStream stream).calls (lines.length + n) =
      handed 0 lines ++ List.replicate n (.finished, lines.length) := by
  intro text lines
  refine ⟨fun other => Text.Utf8.reads_iff, fun n => ?_⟩
  obtain ⟨portions, rfl⟩ := Stream.exists_portions whole
  have same : lines = terminated portions.flatten ++ leftover portions.flatten := by
    rw [← Stream.octets_whole portions]
    exact lines_decode _
  have through := Reader.calls_whole portions n 0
  simp only [Nat.zero_add] at through
  rw [same]
  exact through

/-- Characters across portions and broken off by a carriage return or by the end, an octet that
begins none, and two carriage returns before one line feed. -/
theorem Reader.decoded_at_once_broken_off :
    let stream : Stream := [.octets [0xC3], .octets [0xA9, 0x0D],
      .octets [0x0A, 0xE2, 0x82, 0x0D, 0x0A, 0xFF, 0x0D, 0x0D, 0x0A], .octets [],
      .octets [0xF0, 0x9F]]
    let lines : List Text := [['é'], ['\uFFFD'], ['\uFFFD', '\r'], ['\uFFFD']]
    stream.fault? = none ∧ Text.lines (decode stream.octets) = lines ∧
      (Reader.ofStream stream).calls 6 = handed 0 lines ++ [(.finished, 4), (.finished, 4)] := by
  intro stream lines
  have whole : stream.fault? = none := rfl
  have cut : Text.lines (decode stream.octets) = lines := by decide
  have calls := (Reader.decoded_at_once whole).2 2
  rw [cut] at calls
  exact ⟨whole, cut, calls⟩

end Log
end OrderReplay

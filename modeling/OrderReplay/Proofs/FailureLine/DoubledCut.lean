import Mathlib.Data.List.Basic
import OrderReplay.Proofs.FailureLine.Altered
import OrderReplay.Proofs.FailureLine.RoundTrip
import OrderReplay.Proofs.Json.Hollow

/-! Lines that break off within a payload that was written with every quote doubled. Most are
dropped, as those are that break off within a payload as it should be. Where an odd number of
quotes is left before the last brace, the last of them stays doubled, and within a string of the
payload it can stand for the end of the string. -/
namespace OrderReplay

namespace Payload

open DoubledQuotes (doubled)

theorem throughLast_doubled {front half payload : Text} (quotes : ∀ c ∈ half, c = '"')
    (found : throughLast '\x7d' (doubled front ++ half) = some payload) :
    ∃ inner behind, front = inner ++ '\x7d' :: behind ∧ payload = doubled (inner ++ ['\x7d']) := by
  have absent {piece : Text} (bare : '\x7d' ∉ piece) : '\x7d' ∉ doubled piece ++ half := by
    rw [List.mem_append]
    rintro (member | member)
    · exact DoubledQuotes.not_mem_doubled bare member
    · exact absurd (quotes _ member) (by decide)
  by_cases closed : '\x7d' ∈ front
  · obtain ⟨inner, behind, rfl, last⟩ := exists_last closed
    refine ⟨inner, behind, rfl, ?_⟩
    have split : doubled (inner ++ '\x7d' :: behind) ++ half =
        doubled inner ++ '\x7d' :: (doubled behind ++ half) := by
      rw [DoubledQuotes.doubled_append, DoubledQuotes.doubled_cons (by decide), List.append_assoc,
        List.cons_append]
    rw [split, throughLast_append (absent last)] at found
    rw [← Option.some.inj found, DoubledQuotes.doubled_append]
    rfl
  · rw [(throughLast_eq_none_iff _ _).2 (absent closed)] at found
    cases found

end Payload

namespace FailureLine

open Payload Payload.DoubledQuotes

/-- A line gives an order line by what lies between its outermost braces, and only so. -/
theorem outcome_eq_recovered_iff {before part : Text} {record : OrderLine}
    (marked : marker <:+: before) (clear : '\x7b' ∉ before)
    (opens : ∀ c ∈ part.head?, c = '\x7b') :
    outcome outerBraces (before ++ part) = .recovered record ↔
      ∃ payload, throughLast '\x7d' part = some payload ∧
        OrderLine.ofPayload payload = .ok record := by
  cases part with
  | nil =>
    rw [List.append_nil, outcome_of_unopened marked clear]
    constructor
    · intro recovered
      cases recovered
    · rintro ⟨payload, found, -⟩
      cases found
  | cons first rest =>
    obtain rfl := opens first rfl
    have failure : isFailure (before ++ '\x7b' :: rest) = true :=
      (Text.occurs_iff _ _).2 (marked.trans (List.prefix_append _ _).isInfix)
    have lies : outerBraces (before ++ '\x7b' :: rest) = throughLast '\x7d' ('\x7b' :: rest) := by
      rw [outerBraces, dropWhile_brace clear]
    cases found : throughLast '\x7d' ('\x7b' :: rest) with
    | none => simp [outcome, failure, lies, found]
    | some payload =>
      cases given : OrderLine.ofPayload payload <;> simp [outcome, failure, lies, found, given]

theorem recovered_or_dropped (extent : Extent) {line : Text} (marked : marker <:+: line) :
    (∃ record, outcome extent line = .recovered record) ∨
      ∃ reason, outcome extent line = .dropped reason := by
  cases given : outcome extent line with
  | skipped =>
    have failure : isFailure line = true := (Text.occurs_iff _ _).2 marked
    rw [outcome_eq_skipped_iff, failure] at given
    cases given
  | recovered record => exact .inl ⟨record, rfl⟩
  | dropped reason => exact .inr ⟨reason, rfl⟩

/-- A payload with an odd number of quotes, all of them doubled, is read with the last of them
still doubled. -/
theorem ofPayload_of_lastDoubled {payload : Text} {record : OrderLine} (line : '\n' ∉ payload)
    (seen : shown (doubled payload) = true) (odd : ¬ Even (payload.count '"'))
    (reread : Json.readObject (lastDoubled payload) = .ok record.fields) :
    OrderLine.ofPayload (doubled payload) = .ok record := by
  rw [ofPayload_eq_ok_iff, repair, if_pos seen, collapse_doubled line, if_neg odd]
  exact reread

/-- Up to an earlier brace a doubled payload gives an order line in no other way: undamaged it
is incomplete, and with all its quotes doubled it has no key that could name the line. -/
theorem lastDoubled_of_ofPayload {inner behind : Text} {value : Json.Value} {record : OrderLine}
    (accepted : Json.read .object (inner ++ '\x7d' :: behind) = .ok value)
    (line : '\n' ∉ inner ++ ['\x7d']) (brace : '\x7d' ∈ behind)
    (given : OrderLine.ofPayload (doubled (inner ++ ['\x7d'])) = .ok record) :
    shown (doubled (inner ++ ['\x7d'])) = true ∧ ¬ Even ((inner ++ ['\x7d']).count '"') ∧
      Json.readObject (lastDoubled (inner ++ ['\x7d'])) = .ok record.fields := by
  have read := ofPayload_eq_ok_iff.1 given
  cases seen : shown (doubled (inner ++ ['\x7d'])) with
  | false =>
    rw [repair_of_shown seen] at read
    have nameless := Json.nameless_of_readObject read
    have named := record.id_of_fields
    rw [Json.Members.identifier?, nameless.get?_eq_none (by decide)] at named
    cases named
  | true =>
    rw [repair, if_pos seen, collapse_doubled line] at read
    by_cases even : Even ((inner ++ ['\x7d']).count '"')
    · rw [if_pos even, Json.readObject_of_read (Json.read_cut accepted brace rfl)] at read
      cases read
    · rw [if_neg even] at read
      exact ⟨rfl, even, read⟩

/-- A part of a doubled text in which the last doubled quote finds no partner, and which is cut
within a string: the string opens or goes on at that quote, in the text as it was before, and
goes on through a closing brace. -/
structure Mispaired (text part front rest : Text) : Prop where
  begins : front ++ '"' :: rest <+: text
  closes : rest.getLast? = some '\x7d'
  last : '"' ∉ rest
  found : throughLast '\x7d' part = some (doubled (front ++ '"' :: rest))
  seen : shown (doubled (front ++ '"' :: rest)) = true
  paired : Even (front.count '"')
  within : Json.EndsInString (front ++ '"' :: rest)

/-- The quote behind an even number of quotes is the odd one. -/
theorem even_count_last {front rest : Text} (last : '"' ∉ rest) :
    Even ((front ++ '"' :: rest).count '"') ↔ ¬ Even (front.count '"') := by
  rw [List.count_append, List.count_cons_self, List.count_eq_zero.2 last, Nat.zero_add,
    Nat.even_add_one]

/-- The odd quote of a text that ends in a brace. -/
theorem exists_odd_quote {text : Text} (closes : text.getLast? = some '\x7d')
    (odd : ¬ Even (text.count '"')) :
    ∃ front rest, text = front ++ '"' :: rest ∧ '"' ∉ rest ∧ rest.getLast? = some '\x7d' ∧
      Even (front.count '"') := by
  have quoted : '"' ∈ text := by
    by_contra bare
    rw [List.count_eq_zero.2 bare] at odd
    exact odd Even.zero
  obtain ⟨front, rest, rfl, last⟩ := exists_last quoted
  rw [even_count_last last, not_not] at odd
  refine ⟨front, rest, rfl, last, ?_, odd⟩
  cases rest with
  | nil => simp at closes
  | cons c rest => simpa using closes

theorem Mispaired.ofPayload {text part front rest : Text} {record : OrderLine}
    (mispaired : Mispaired text part front rest) (line : '\n' ∉ text)
    (reread : Json.readObject (front ++ '"' :: '"' :: rest) = .ok record.fields) :
    OrderLine.ofPayload (doubled (front ++ '"' :: rest)) = .ok record := by
  apply ofPayload_of_lastDoubled
  · exact fun member => line (mispaired.begins.subset member)
  · exact mispaired.seen
  · rw [even_count_last mispaired.last, not_not]
    exact mispaired.paired
  · rw [lastDoubled_last mispaired.last]
    exact reread

/-- What ends in a brace has one behind every part but the whole of it. -/
theorem brace_behind {inner behind tail half : Text}
    (closes : (inner ++ '\x7d' :: behind ++ tail).getLast? = some '\x7d')
    (cut : doubled (inner ++ '\x7d' :: behind) ++ half <+:
      doubled (inner ++ '\x7d' :: behind ++ tail))
    (proper : doubled (inner ++ '\x7d' :: behind) ++ half ≠
      doubled (inner ++ '\x7d' :: behind ++ tail)) : '\x7d' ∈ behind ++ tail := by
  have more : behind ++ tail ≠ [] := by
    intro none
    obtain ⟨rfl, rfl⟩ := List.append_eq_nil_iff.1 none
    rw [List.append_nil] at cut proper
    exact proper (cut.eq_of_length_le (by simp))
  rw [List.append_assoc, List.cons_append, List.append_cons,
    List.getLast?_append_of_ne_nil _ more] at closes
  exact List.mem_of_getLast? closes

/-- Every order line that is found in a part of a doubled text is found there by such a quote. -/
theorem mispaired_of_ofPayload {text part payload : Text} {value : Json.Value} {record : OrderLine}
    (accepted : Json.read .object text = .ok value) (closes : text.getLast? = some '\x7d')
    (line : '\n' ∉ text) (cut : part <+: doubled text) (proper : part ≠ doubled text)
    (found : throughLast '\x7d' part = some payload)
    (given : OrderLine.ofPayload payload = .ok record) :
    ∃ front rest, Mispaired text part front rest ∧
      Json.readObject (front ++ '"' :: '"' :: rest) = .ok record.fields := by
  obtain ⟨whole, half, ⟨tail, rfl⟩, rfl, quotes⟩ := prefix_doubled cut
  obtain ⟨inner, behind, rfl, rfl⟩ := throughLast_doubled quotes found
  have brace := brace_behind closes cut proper
  have rejoined : inner ++ '\x7d' :: behind ++ tail = inner ++ '\x7d' :: (behind ++ tail) := by simp
  have begins : inner ++ ['\x7d'] <+: inner ++ '\x7d' :: behind ++ tail := ⟨behind ++ tail, by simp⟩
  rw [rejoined] at accepted
  have oneLine : '\n' ∉ inner ++ ['\x7d'] := fun member => line (begins.subset member)
  obtain ⟨seen, odd, reread⟩ := lastDoubled_of_ofPayload accepted oneLine brace given
  obtain ⟨front, rest, split, last, ends, paired⟩ := exists_odd_quote List.getLast?_concat odd
  rw [split] at begins seen reread found
  rw [lastDoubled_last last] at reread
  obtain ⟨more, same⟩ := begins
  have within : Json.EndsInString (front ++ '"' :: rest) := by
    rw [← rejoined, ← same] at accepted
    exact Json.endsInString_of_last_doubled last accepted (Json.read_of_readObject reread)
  exact ⟨front, rest, ⟨⟨more, same⟩, ends, last, found, seen, paired, within⟩, reread⟩

/-- A failure line that breaks off within a payload written with every quote doubled. It gives an
order line if and only if what is left up to the last brace breaks off within a string, behind an
even number of quotes and then one that stays doubled for want of a partner; the order line is
what is read with that quote doubled. Otherwise the line is dropped, as it always is if every
brace of the payload stands outside of strings. -/
theorem outcome_of_doubled_cut {text before part : Text} {fields : Json.Members}
    (line : '\n' ∉ text) (opens : text.head? = some '\x7b') (closes : text.getLast? = some '\x7d')
    (accepted : Json.readObject text = .ok fields) (marked : marker <:+: before)
    (clear : '\x7b' ∉ before) (cut : part <+: doubled text) (proper : part ≠ doubled text) :
    (∀ record, outcome outerBraces (before ++ part) = .recovered record ↔
      ∃ front rest, Mispaired text part front rest ∧
        Json.readObject (front ++ '"' :: '"' :: rest) = .ok record.fields) ∧
    ((∃ record, outcome outerBraces (before ++ part) = .recovered record) ∨
      ∃ reason, outcome outerBraces (before ++ part) = .dropped reason) ∧
    ((∀ inner, inner ++ ['\x7d'] <+: text → ¬ Json.EndsInString (inner ++ ['\x7d'])) →
      ∃ reason, outcome outerBraces (before ++ part) = .dropped reason) := by
  have first : ∀ c ∈ part.head?, c = '\x7b' := by
    intro c here
    obtain ⟨rest, rfl⟩ := List.head?_eq_some_iff.1 here
    obtain ⟨tail, same⟩ := cut
    have begins := head?_doubled opens
    rw [← same] at begins
    exact Option.some.inj begins
  have read := Json.read_of_readObject accepted
  have exactly (record : OrderLine) : outcome outerBraces (before ++ part) = .recovered record ↔
      ∃ front rest, Mispaired text part front rest ∧
        Json.readObject (front ++ '"' :: '"' :: rest) = .ok record.fields := by
    rw [outcome_eq_recovered_iff marked clear first]
    constructor
    · rintro ⟨payload, found, given⟩
      exact mispaired_of_ofPayload read closes line cut proper found given
    · rintro ⟨front, rest, mispaired, reread⟩
      exact ⟨_, mispaired.found, mispaired.ofPayload line reread⟩
  have failure : marker <:+: before ++ part := marked.trans (List.prefix_append _ _).isInfix
  have either := recovered_or_dropped outerBraces failure
  refine ⟨exactly, either, fun apart => ?_⟩
  rcases either with ⟨record, recovered⟩ | dropped
  · obtain ⟨front, rest, mispaired, -⟩ := (exactly record).1 recovered
    obtain ⟨inner, rfl⟩ := List.getLast?_eq_some_iff.1 mispaired.closes
    have begins := mispaired.begins
    have within := mispaired.within
    rw [← List.cons_append, ← List.append_assoc] at begins within
    exact absurd within (apart _ begins)
  · exact dropped

/-- A quote and a brace in the identifier, and a line that ends at the brace: the order line is
recovered under another identifier. -/
theorem outcome_of_doubled_cut_identifier :
    let text := "\x7b\"x\":\"\\\"\",\"id\":\"a\\\"\x7d\"\x7d".toList
    let part := "\x7b\"\"x\"\":\"\"\\\"\"\"\",\"\"id\"\":\"\"a\\\"\"\x7d".toList
    let fields (id : Text) : Json.Members := [(['x'], .string ['"']), (idKey, .string id)]
    Json.readObject text = .ok (fields ['a', '"', '\x7d']) ∧ part <+: doubled text ∧
      ∃ record, record.fields = fields ['a', '"'] ∧
        outcome outerBraces (marker ++ [' '] ++ part) = .recovered record := by
  intro text part fields
  have accepted : Json.readObject text = .ok (fields ['a', '"', '\x7d']) := by rfl
  have cut : part <+: doubled text := by decide
  have marked : marker <:+: marker ++ [' '] := (List.prefix_append ..).isInfix
  obtain ⟨exactly, -, -⟩ := outcome_of_doubled_cut (by decide) (by decide) (by decide) accepted
    marked (by decide) cut (by decide)
  let front := "\x7b\"x\":\"\\\"\",\"id\":\"a\\".toList
  have within : Json.EndsInString (front ++ '"' :: ['\x7d']) := ⟨_, _, rfl, .string⟩
  have mispaired : Mispaired text part front ['\x7d'] :=
    ⟨by decide, rfl, by decide, by decide, by decide, by decide, within⟩
  exact ⟨accepted, cut, ⟨fields ['a', '"'], ['a', '"'], rfl⟩, rfl,
    (exactly _).2 ⟨front, _, mispaired, rfl⟩⟩

/-- A brace in a value, and a line that ends there: the value is recovered as an empty one. -/
theorem doubled_cut_recovered_altered :
    let text := "\x7b\"id\":\"a\",\"x\":\"\x7d\"\x7d".toList
    let part := "\x7b\"\"id\"\":\"\"a\"\",\"\"x\"\":\"\"\x7d".toList
    let fields (x : Text) : Json.Members := [(idKey, .string ['a']), (['x'], .string x)]
    '\n' ∉ text ∧ text.head? = some '\x7b' ∧ text.getLast? = some '\x7d' ∧
      ['"', 'i', 'd', '"'] <:+: text ∧
      OrderLine.ofPayload text = .ok ⟨fields ['\x7d'], ['a'], rfl⟩ ∧ '\x7b' ∉ marker ++ [' '] ∧
      part <+: doubled text ∧ part ≠ doubled text ∧
      outcome outerBraces (marker ++ [' '] ++ part) = .recovered ⟨fields [], ['a'], rfl⟩ ∧
      fields [] ≠ fields ['\x7d'] := by
  intro text part fields
  have accepted : Json.readObject text = .ok (fields ['\x7d']) := by rfl
  have key : ['"', 'i', 'd', '"'] <:+: text := ⟨['\x7b'], text.drop 5, by decide⟩
  have marked : marker <:+: marker ++ [' '] := (List.prefix_append ..).isInfix
  let payload := "\x7b\"id\":\"a\",\"x\":\"\x7d".toList
  have reread : Json.readObject (lastDoubled payload) = .ok (fields []) := by rfl
  have given : OrderLine.ofPayload (doubled payload) = .ok ⟨fields [], ['a'], rfl⟩ :=
    ofPayload_of_lastDoubled (by decide) (by decide) (by decide) reread
  refine ⟨by decide, by decide, by decide, key, ofPayload_of_readObject accepted rfl, by decide,
    by decide, by decide, ?_, by simp [fields]⟩
  have opens : ∀ c ∈ part.head?, c = '\x7b' := fun c here => (Option.some.inj here).symm
  rw [outcome_eq_recovered_iff marked (by decide) opens]
  exact ⟨doubled payload, by decide, given⟩

end FailureLine
end OrderReplay

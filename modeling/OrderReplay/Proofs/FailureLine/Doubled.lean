import OrderReplay.Proofs.Payload.Bounds
import OrderReplay.Proofs.Payload.Doubling
import OrderReplay.Proofs.Payload.Untouched

/-! Payloads in which every quote was written twice, in their lines. The repair takes doubled
quotes in pairs, so whether the order line is recovered depends on the number of quotes, those
escaped within strings among them. -/
namespace OrderReplay.FailureLine

open Payload Payload.DoubledQuotes

/-- A usable object is an order line wherever it is read. -/
theorem ofMembers?_of_named {fields : Json.Members} (named : fields.identifier?.isSome = true) :
    ∃ record, OrderLine.ofMembers? fields = some record ∧ record.fields = fields := by
  rw [← OrderLine.ofMembers?_isSome] at named
  obtain ⟨record, found⟩ := Option.isSome_iff_exists.1 named
  exact ⟨record, found, OrderLine.ofMembers?_fields found⟩

/-- With its last quote written twice an accepted text is refused. -/
theorem readObject_lastDoubled {text : Text} {fields : Json.Members} (quoted : '"' ∈ text)
    (accepted : Json.readObject text = .ok fields) :
    Json.readObject (lastDoubled text) = .error .malformed := by
  obtain ⟨front, rest, rfl, last⟩ := exists_last quoted
  rw [lastDoubled_last last]
  have read := Json.read_of_readObject accepted
  exact Json.readObject_of_read (Json.read_last_quote_doubled last read)

/-- The payload with every quote doubled: repaired for an even number of quotes, and for an
odd one left with a doubled quote that no text may hold there. -/
theorem ofPayload_doubled {text : Text} {fields : Json.Members} {record : OrderLine}
    (line : '\n' ∉ text) (accepted : Json.readObject text = .ok fields)
    (named : OrderLine.ofMembers? fields = some record) (key : ['"', 'i', 'd', '"'] <:+: text) :
    OrderLine.ofPayload (doubled text) =
      if Even (text.count '"') then .ok record
      else .error (.invalidJson (doubled text) .malformed) := by
  rw [ofPayload_of_repair (repair_of_doubled line key)]
  by_cases even : Even (text.count '"')
  · simp [if_pos even, accepted, named]
  · have quoted : '"' ∈ text := key.subset (List.mem_cons_self ..)
    simp [if_neg even, readObject_lastDoubled quoted accepted]

/-- A failure line whose payload was written with every quote doubled gives the order line of
the payload exactly if the payload has an even number of quotes. Otherwise it is dropped. -/
theorem outcome_of_doubled {text before behind : Text} {fields : Json.Members}
    (line : '\n' ∉ text) (opens : text.head? = some '\x7b') (closes : text.getLast? = some '\x7d')
    (accepted : Json.readObject text = .ok fields) (named : fields.identifier?.isSome = true)
    (key : ['"', 'i', 'd', '"'] <:+: text) (marked : marker <:+: before)
    (clear : '\x7b' ∉ before) (silent : '\x7d' ∉ behind) :
    ∃ record, OrderLine.ofPayload text = .ok record ∧ record.fields = fields ∧
      outcome outerBraces (before ++ doubled text ++ behind) =
        if Even (text.count '"') then .recovered record
        else .dropped (.invalidJson (doubled text) .malformed) := by
  obtain ⟨record, found, same⟩ := ofMembers?_of_named named
  refine ⟨record, ofPayload_of_readObject accepted found, same, ?_⟩
  rw [outcome_of_braces marked clear (head?_doubled opens) (getLast?_doubled closes)
    silent, ofPayload_doubled line accepted found key]
  by_cases even : Even (text.count '"') <;> simp [even]

/-- An empty value and a quoted brace, and a line that goes on behind the payload. -/
theorem outcome_of_doubled_empty_value :
    let text := "\x7b\"id\":\"a\",\"note\":\"\",\"b\":[\"\x7d\"]\x7d".toList
    let fields : Json.Members :=
      [(idKey, .string ['a']), ("note".toList, .string []), (['b'], .list [.string ['\x7d']])]
    Json.readObject text = .ok fields ∧
      ∃ record, record.fields = fields ∧
        outcome outerBraces (marker ++ ['/', 'a', ' '] ++ doubled text ++ ['"']) =
          .recovered record := by
  intro text fields
  have accepted : Json.readObject text = .ok fields := by rfl
  have marked : marker <:+: marker ++ ['/', 'a', ' '] := (List.prefix_append ..).isInfix
  have key : ['"', 'i', 'd', '"'] <:+: text := ⟨['\x7b'], text.drop 5, by decide⟩
  have even : Even (text.count '"') := by decide
  obtain ⟨record, _, same, recovered⟩ := @outcome_of_doubled text _ ['"'] fields
    (by decide) (by decide) (by decide) accepted (by decide) key marked (by decide) (by decide)
  rw [if_pos even] at recovered
  exact ⟨accepted, record, same, recovered⟩

/-- An escaped quote makes the number of quotes odd, and the order line is lost. -/
theorem doubled_escaped_quote_dropped :
    let text := "\x7b\"id\":\"a\\\"\"\x7d".toList
    let record : OrderLine := ⟨[(idKey, .string ['a', '"'])], ['a', '"'], rfl⟩
    '\n' ∉ text ∧ text.head? = some '\x7b' ∧ text.getLast? = some '\x7d' ∧
      OrderLine.ofPayload text = .ok record ∧ ['"', 'i', 'd', '"'] <:+: text ∧
      '\x7b' ∉ marker ++ [' '] ∧
      outcome outerBraces (marker ++ [' '] ++ doubled text) =
        .dropped (.invalidJson (doubled text) .malformed) := by
  intro text record
  have accepted : Json.readObject text = .ok record.fields := by rfl
  have named : OrderLine.ofMembers? record.fields = some record := by rfl
  have key : ['"', 'i', 'd', '"'] <:+: text := ⟨['\x7b'], text.drop 5, by decide⟩
  have marked : marker <:+: marker ++ [' '] := (List.prefix_append ..).isInfix
  have odd : ¬ Even (text.count '"') := by decide
  refine ⟨by decide, by decide, by decide, ofPayload_of_readObject accepted named, key,
    by decide, ?_⟩
  have split := @outcome_of_braces _ (doubled text) [] marked (by decide) (by decide)
    (by decide) (by decide)
  rw [List.append_nil] at split
  rw [split, ofPayload_doubled (by decide) accepted named key, if_neg odd]

end OrderReplay.FailureLine

import OrderReplay.Proofs.Json.Written
import OrderReplay.Proofs.Payload.Bounds
import OrderReplay.Proofs.Payload.Untouched

/-! An order line that was recovered and is written into a failure line again, as it is sent,
is recovered from there unchanged. Its braces mark it off, it shows no doubled key, and it is
read as the object it was written from. -/
namespace OrderReplay.FailureLine

theorem readObject_of_ofPayload {payload : Text} {line : OrderLine}
    (h : OrderLine.ofPayload payload = .ok line) :
    Json.readObject (Payload.DoubledQuotes.repair payload) = .ok line.fields ∧
      OrderLine.ofMembers? line.fields = some line := by
  rw [Payload.ofPayload_of_repair rfl] at h
  split at h
  next => cases h
  next fields accepted =>
    cases named : OrderLine.ofMembers? fields with
    | none => simp [named] at h
    | some found =>
      obtain rfl : found = line := by simpa [named] using h
      rw [OrderLine.ofMembers?_fields named]
      exact ⟨accepted, named⟩

/-- A payload gives the order line that is known by its object, and no other. -/
theorem ofPayload_eq_ok_iff {payload : Text} {line : OrderLine} :
    OrderLine.ofPayload payload = .ok line ↔
      Json.readObject (Payload.DoubledQuotes.repair payload) = .ok line.fields := by
  refine ⟨fun given => (readObject_of_ofPayload given).1, fun accepted => ?_⟩
  rw [Payload.ofPayload_of_repair rfl, accepted]
  exact congrArg (Option.elim · _ Except.ok) line.ofMembers?_of_fields

/-- What is sent for an order line without reals, written into a failure line, is recovered
as the same order line: identifier, members and their order at every depth. -/
theorem outcome_of_written {payload before behind : Text} {line : OrderLine}
    (given : OrderLine.ofPayload payload = .ok line) (integral : line.value.Integral)
    (marked : marker <:+: before) (clear : '\x7b' ∉ before) (silent : '\x7d' ∉ behind) :
    outcome Payload.outerBraces (before ++ line.written ++ behind) = .recovered line := by
  obtain ⟨accepted, named⟩ := readObject_of_ofPayload given
  have sound := Json.sound_of_read (Json.read_of_readObject accepted)
  have again : Json.readObject line.written = .ok line.fields :=
    Json.readObject_written sound integral
  have opens : line.written.head? = some '\x7b' := (Json.Value.written_braces line.fields).1
  have closes : line.written.getLast? = some '\x7d' := (Json.Value.written_braces line.fields).2
  rw [Payload.outcome_of_braces marked clear opens closes silent,
    Payload.ofPayload_of_readObject again named]

/-- Blanks, a key that comes twice, braces and quotes within strings, and a control. -/
theorem outcome_of_written_nested :
    let payload :=
      "\x7b \"id\":\"a\",\"x\":[\x7b\"\":\"\x7d\\\"\\u0001\"\x7d, -5,[]],\"id\":7\x7d".toList
    let items : List Json.Value :=
      [.object [([], .string ['\x7d', '"', '\x01'])], .number (.integer (-5)), .list []]
    let fields : Json.Members := [(idKey, .number (.integer 7)), (['x'], .list items)]
    ∃ line, OrderLine.ofPayload payload = .ok line ∧ line.fields = fields ∧
      line.written = "\x7b\"id\":7,\"x\":[\x7b\"\":\"\x7d\\\"\\u0001\"\x7d,-5,[]]\x7d".toList ∧
      outcome Payload.outerBraces (marker ++ [' '] ++ line.written ++ ['.']) = .recovered line := by
  intro payload items fields
  have accepted : Json.readObject payload = .ok fields := by rfl
  have given : OrderLine.ofPayload payload = .ok ⟨fields, ['7'], rfl⟩ :=
    Payload.ofPayload_of_readObject accepted rfl
  have integral : (Json.Value.object fields).Integral := by
    intro n member
    have either : n = .integer 7 ∨ n = .integer (-5) := by
      simpa [fields, items, Json.Value.numbers, Json.Value.numbersOfItems,
        Json.Value.numbersOfMembers] using member
    rcases either with rfl | rfl
    · exact ⟨_, rfl⟩
    · exact ⟨_, rfl⟩
  have marked : marker <:+: marker ++ [' '] := (List.prefix_append ..).isInfix
  exact ⟨_, given, rfl, by decide +kernel,
    outcome_of_written given integral marked (by decide) (by decide)⟩

end OrderReplay.FailureLine

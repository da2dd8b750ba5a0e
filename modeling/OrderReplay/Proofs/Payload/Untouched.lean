import OrderReplay.FailureLine
import OrderReplay.Proofs.Json.Quotes

/-! Payloads that need no repair get none. The sign that a payload is damaged cannot stand
in a text that is accepted as it is, nor in any part of it that begins where it does. -/
namespace OrderReplay.Payload

namespace DoubledQuotes

/-- What may still become an accepted text does not show the doubled key. -/
theorem shown_of_accepted {root : Json.Root} {payload behind : Text} {value : Json.Value}
    (accepted : Json.read root (payload ++ behind) = .ok value) : shown payload = false := by
  rw [← Bool.not_eq_true]
  intro found
  obtain ⟨before, rest, rfl⟩ := (Text.occurs_iff _ _).1 found
  have ordinary : Json.Reader.isSeparator 'i' = false := by decide
  apply Json.read_ne_of_quotes ordinary root before ('d' :: '"' :: '"' :: rest ++ behind) value
  simpa [telltale] using accepted

theorem repair_of_shown {payload : Text} (h : shown payload = false) :
    repair payload = payload := by
  simp [repair, h]

end DoubledQuotes

theorem ofPayload_of_repair {payload text : Text} (h : DoubledQuotes.repair payload = text) :
    OrderLine.ofPayload payload =
      match Json.readObject text with
      | .error flaw => .error (.invalidJson payload flaw)
      | .ok fields => (OrderLine.ofMembers? fields).elim (.error (.missingId payload)) .ok := by
  rw [OrderLine.ofPayload, h]
  cases Json.readObject text with
  | error flaw => rfl
  | ok fields => cases h : OrderLine.ofMembers? fields <;> simp [h]

theorem ofPayload_of_readObject {text : Text} {fields : Json.Members} {record : OrderLine}
    (accepted : Json.readObject text = .ok fields)
    (named : OrderLine.ofMembers? fields = some record) :
    OrderLine.ofPayload text = .ok record := by
  have whole : Json.read .object (text ++ []) = .ok (.object fields) := by
    rw [List.append_nil]
    exact Json.read_of_readObject accepted
  have same := DoubledQuotes.repair_of_shown (DoubledQuotes.shown_of_accepted whole)
  rw [ofPayload_of_repair same, accepted]
  simp [named]

/-- Whatever begins a text that is accepted as JSON, up to the whole of it, shows no doubled
key and is left as it is; what it gives as a payload is then decided by reading it alone. -/
theorem repair_of_accepted {root : Json.Root} {payload behind : Text} {value : Json.Value}
    (accepted : Json.read root (payload ++ behind) = .ok value) :
    DoubledQuotes.shown payload = false ∧ DoubledQuotes.repair payload = payload ∧
    OrderLine.ofPayload payload =
      match Json.readObject payload with
      | .error flaw => .error (.invalidJson payload flaw)
      | .ok fields => (OrderLine.ofMembers? fields).elim (.error (.missingId payload)) .ok := by
  have unseen := DoubledQuotes.shown_of_accepted accepted
  have same := DoubledQuotes.repair_of_shown unseen
  exact ⟨unseen, same, ofPayload_of_repair same⟩

/-- An object cut off before its last brace, with an empty key, an empty value and an escaped
key `id` in a value. -/
theorem repair_of_accepted_cut_off :
    let payload := "\x7b\"\":\"\\\"id\\\"\",\"id\":\"\"".toList
    Json.read .object (payload ++ ['\x7d']) =
        .ok (.object [([], .string "\"id\"".toList), (idKey, .string [])]) ∧
      DoubledQuotes.repair payload = payload := by
  intro payload
  have accepted : Json.read .object (payload ++ ['\x7d']) =
      .ok (.object [([], .string "\"id\"".toList), (idKey, .string [])]) := by rfl
  exact ⟨accepted, (repair_of_accepted accepted).2.1⟩

end OrderReplay.Payload

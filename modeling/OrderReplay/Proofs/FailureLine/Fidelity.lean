import Mathlib.Tactic.NormNum
import OrderReplay.Okapi.Client
import OrderReplay.Proofs.FailureLine.RoundTrip
import OrderReplay.Proofs.Json.Carried
import OrderReplay.Proofs.Json.Unambiguous

/-! What is sent for an order line against what the log says. Members, their order and strings
come through unchanged at every depth; a number may not, as it is read into 64 bits. -/
namespace OrderReplay.FailureLine

open Json (Denotes Numeral Spells)

theorem body_of_request {client : Okapi.Client} {session : Okapi.Session} {record : OrderLine}
    {request : Http.Request}
    (h : client.requestOf (.update session record) = .ok request) :
    request.body = record.written := by
  simp only [Okapi.Client.requestOf, Okapi.Client.request] at h
  split at h
  · cases h
  split at h
  · cases h
  split at h
  · split at h
    · obtain rfl := Except.ok.inj h
      rfl
    · cases h
  · cases h

theorem ofPayload_of_outcome {extent : Payload.Extent} {line payload : Text} {record : OrderLine}
    (given : outcome extent line = .recovered record) (found : extent line = some payload) :
    OrderLine.ofPayload payload = .ok record := by
  unfold outcome at given
  rw [found] at given
  split at given
  · simp only at given
    split at given
    next other accepted =>
      obtain rfl := Outcome.recovered.inj given
      exact accepted
    next => cases given
  · cases given

/-- The body that updates an order line against the payload that it was recovered from, if its
quotes needed no repair. The body denotes what the payload denotes if and only if every numeral
of the payload comes through with its value; integers of 64 bits do, and so do decimals of
fifteen digits with a small exponent. -/
theorem body_of_recovered {extent : Payload.Extent} {line payload : Text} {record : OrderLine}
    (given : outcome extent line = .recovered record) (found : extent line = some payload)
    (plain : Payload.DoubledQuotes.repair payload = payload) :
    ∃ document : Json.Tree Numeral,
      (∀ tree, Spells payload tree ↔ tree = document) ∧
      (∀ tree, Spells record.written tree ↔ tree = document.map Numeral.carried) ∧
      ((∃ content, Denotes payload content ∧ Denotes record.written content) ↔
        document.All fun n => n.carried.value = n.value) ∧
      (document.All fun n => n.FitsInteger ∨ n.FitsDecimal → n.carried.value = n.value) ∧
      ∀ (client : Okapi.Client) (session : Okapi.Session) (request : Http.Request),
        client.requestOf (.update session record) = .ok request →
          request.body = record.written := by
  have recovered := ofPayload_of_outcome given found
  obtain ⟨accepted, _⟩ := readObject_of_ofPayload recovered
  rw [plain] at accepted
  obtain ⟨document, gives, written⟩ := Json.spells_of_readObject accepted
  have lawful := Json.lawful_of_spells gives.spells
  refine ⟨document, gives.spells.iff_eq, written.iff_eq, ?_, ?_, fun _ _ _ => body_of_request⟩
  · rw [← Json.Tree.map_eq_map_iff, ← Json.Tree.map_map]
    constructor
    · rintro ⟨content, logged, sent⟩
      rw [gives.spells.denotes_iff] at logged
      rw [OrderLine.written, OrderLine.value, written.denotes_iff] at sent
      exact sent.symm.trans logged
    · intro same
      exact ⟨_, ⟨document, gives.spells, rfl⟩, _, written, same.symm⟩
  · refine (lawful.and gives.known).imp ?_
    rintro n ⟨lawful, known⟩ (integer | decimal)
    · exact Numeral.carried_value_integer lawful integer
    · exact Numeral.carried_value_decimal lawful known decimal

def sent? (extent : Payload.Extent) (client : Okapi.Client) (session : Okapi.Session)
    (line : Text) : Option Text :=
  match outcome extent line with
  | .recovered record => (client.requestOf (.update session record)).toOption.map (·.body)
  | .skipped | .dropped _ => none

theorem request_of_sent? {extent : Payload.Extent} {client : Okapi.Client}
    {session : Okapi.Session} {line body : Text}
    (h : sent? extent client session line = some body) :
    ∃ record request, outcome extent line = .recovered record ∧
      client.requestOf (.update session record) = .ok request ∧ request.body = body := by
  unfold sent? at h
  split at h
  next record given =>
    cases made : client.requestOf (.update session record) with
    | error cause =>
      rw [made] at h
      cases h
    | ok request =>
      rw [made] at h
      exact ⟨record, request, given, made, Option.some.inj h⟩
  next => cases h
  next => cases h

/-- A key that comes twice, an escape, and numbers that are written otherwise than they stand. -/
theorem body_of_recovered_rewritten :
    let payload := "\x7b\"id\":1,\"n\":[0.50,1e2,-0],\"id\":\"\\u00e9\"\x7d".toList
    let line := marker ++ ' ' :: payload
    let client : Okapi.Client := ⟨"http://[::1]:9130".toList, ['t'], some 60⟩
    ∃ record request, outcome Payload.outerBraces line = .recovered record ∧
      client.requestOf (.update ⟨['s']⟩ record) = .ok request ∧
      request.body = "\x7b\"id\":\"é\",\"n\":[0.5,100.0,-0.0]\x7d".toList ∧
      ∃ document : Json.Tree Numeral, (∀ tree, Spells payload tree ↔ tree = document) ∧
        (∀ tree, Spells request.body tree ↔ tree = document.map Numeral.carried) := by
  intro payload line client
  obtain ⟨record, request, given, made, body⟩ :=
    request_of_sent? (by decide +kernel : sent? Payload.outerBraces client ⟨['s']⟩ line =
      some "\x7b\"id\":\"é\",\"n\":[0.5,100.0,-0.0]\x7d".toList)
  have found : Payload.outerBraces line = some payload := by decide +kernel
  have plain : Payload.DoubledQuotes.repair payload = payload := by decide +kernel
  obtain ⟨document, logged, sent, _, _, written⟩ := body_of_recovered given found plain
  rw [← written client _ request made] at sent
  exact ⟨record, request, given, made, body, document, logged, sent⟩

theorem denotes_numbered (n : Json.Number) :
    Denotes (Json.Value.object [(idKey, .string ['a']), (['n'], .number n)]).written
      (.object [(idKey, .string ['a']), (['n'], .number n.numeral.value)]) := by
  have name : Spells (Json.Value.string ['a']).written (Json.Value.string ['a']).tree :=
    Json.spells_render ['a']
  have number : Spells (Json.Value.number n).written (Json.Value.number n).tree := by
    rw [Json.Value.written, Json.Value.tree, ← n.numeral_text]
    exact .number n.numeral_lawful
  refine ⟨_, Json.spells_members ?_ ?_, rfl⟩
  · simp [idKey]
  · simpa using ⟨name, number⟩

def twoTo64 : Json.Number := .real ⟨false, Nat.pow 2 1138⟩

theorem twoTo64_value : twoTo64.numeral.value = 18446744073709552000 := by
  have significand : twoTo64.numeral.significand = 18446744073709552 := by decide +kernel
  have exponent : twoTo64.numeral.exponent = 3 := by decide +kernel
  have positive : twoTo64.numeral.negative = false := by decide +kernel
  rw [Numeral.value, significand, exponent, positive]
  norm_num

/-- An integer of more than 64 bits is sent as another number. -/
theorem integer_beyond_altered :
    let payload := "\x7b\"id\":\"a\",\"n\":18446744073709551617\x7d".toList
    let line := marker ++ ' ' :: payload
    let client : Okapi.Client := ⟨"http://[::1]:9130".toList, ['t'], some 60⟩
    let content (n : ℚ) : Json.Tree ℚ := .object [(idKey, .string ['a']), (['n'], .number n)]
    ∃ record request, outcome Payload.outerBraces line = .recovered record ∧
      Payload.outerBraces line = some payload ∧ Payload.DoubledQuotes.repair payload = payload ∧
      client.requestOf (.update ⟨['s']⟩ record) = .ok request ∧
      Denotes payload (content 18446744073709551617) ∧
      Denotes request.body (content 18446744073709552000) ∧
      ¬ ∃ both, Denotes payload both ∧ Denotes request.body both := by
  intro payload line client content
  obtain ⟨record, request, given, made, body⟩ :=
    request_of_sent? (by decide +kernel : sent? Payload.outerBraces client ⟨['s']⟩ line =
      some (Json.Value.object [(idKey, .string ['a']), (['n'], .number twoTo64)]).written)
  have found : Payload.outerBraces line = some payload := by decide +kernel
  have plain : Payload.DoubledQuotes.repair payload = payload := by decide +kernel
  have shown : (Json.Value.object [(idKey, .string ['a']),
      (['n'], .number (.integer 18446744073709551617))]).written = payload := by decide +kernel
  have logged : Denotes payload (content 18446744073709551617) := by
    have denotes := denotes_numbered (.integer 18446744073709551617)
    rw [shown, Json.Number.numeral_value_integer, Int.cast_ofNat] at denotes
    exact denotes
  have sent : Denotes request.body (content 18446744073709552000) := by
    have denotes := denotes_numbered twoTo64
    rw [← body, twoTo64_value] at denotes
    exact denotes
  refine ⟨record, request, given, found, plain, made, logged, sent, ?_⟩
  rintro ⟨both, here, there⟩
  have same := (logged.unique here).trans (sent.unique there).symm
  simp [content] at same

end OrderReplay.FailureLine

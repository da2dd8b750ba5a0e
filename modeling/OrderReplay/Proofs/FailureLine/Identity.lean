import Mathlib.Data.List.Nodup
import OrderReplay.Proofs.FailureLine.Fidelity
import OrderReplay.Proofs.Json.Spelled
import OrderReplay.Proofs.Okapi.Update

/-! The identifier of an order line in its payload, in the path of its update and in the body. A
payload may give several values under the key of the identifier, each spelled in its own way; the
last of them is the one that is kept, and all three follow it. -/
namespace OrderReplay

open Json (Numeral Spelled Spelling lastUnder)

/-- A value that an order line can be named by. -/
inductive Json.Tree.Names {ν : Type} : Tree ν → Prop where
  | string {text} (present : text ≠ []) : Names (.string text)
  | number {n} : Names (.number n)

theorem identifier?_read_isSome_iff (tree : Json.Tree Numeral) :
    (identifier? tree.read).isSome = true ↔ tree.Names := by
  cases tree with
  | string text =>
    cases text with
    | nil =>
      refine ⟨fun none => (by cases none), fun names => ?_⟩
      cases names with
      | string present => exact absurd rfl present
    | cons c rest => exact ⟨fun _ => .string (List.cons_ne_nil _ _), fun _ => rfl⟩
  | number n => exact ⟨fun _ => .number, fun _ => rfl⟩
  | null | bool | list | object =>
    exact ⟨fun none => (by cases none), fun names => (by cases names)⟩

theorem Json.Number.written_ne_nil (n : Json.Number) : n.written ≠ [] := by
  rw [← n.numeral_text, Json.Numeral.text]
  intro none
  simp only [List.append_eq_nil_iff] at none
  exact n.numeral_lawful.present none.1.1.2

theorem written_of_identifier? {value : Json.Value} {id : Text}
    (given : identifier? value = some id) :
    id ≠ [] ∧ (value.written = Json.Quotation.render id ∨ value.written = id) := by
  cases value with
  | string text =>
    cases text with
    | nil => cases given
    | cons c rest =>
      obtain rfl := Option.some.inj given
      exact ⟨List.cons_ne_nil _ _, .inl (by rw [Json.Value.written])⟩
  | number n =>
    obtain rfl := Option.some.inj given
    exact ⟨n.written_ne_nil, .inr (by rw [Json.Value.written])⟩
  | null | bool | list | object => cases given

namespace OrderLine

theorem exists_named (record : OrderLine) :
    ∃ value, record.fields.get? idKey = some value ∧ identifier? value = some record.id :=
  Option.bind_eq_some_iff.1 record.id_of_fields

theorem fields_ne_nil (record : OrderLine) : record.fields ≠ [] := by
  intro none
  have named := record.id_of_fields
  rw [none] at named
  cases named

/-- A payload gives an order line if the object in it has a usable identifier. -/
theorem exists_ofPayload_iff (payload : Text) :
    (∃ record, ofPayload payload = .ok record) ↔
      ∃ fields, Json.readObject (Payload.DoubledQuotes.repair payload) = .ok fields ∧
        fields.identifier?.isSome = true := by
  constructor
  · rintro ⟨record, given⟩
    refine ⟨record.fields, FailureLine.ofPayload_eq_ok_iff.1 given, ?_⟩
    rw [record.id_of_fields]
    rfl
  · rintro ⟨fields, accepted, named⟩
    obtain ⟨id, named⟩ := Option.isSome_iff_exists.1 named
    exact ⟨⟨fields, id, named⟩, FailureLine.ofPayload_eq_ok_iff.2 accepted⟩

theorem nodup_keys {payload : Text} {record : OrderLine} (given : ofPayload payload = .ok record) :
    (record.fields.map Prod.fst).Nodup := by
  have accepted := FailureLine.ofPayload_eq_ok_iff.1 given
  have sound := Json.sound_of_read (Json.read_of_readObject accepted)
  cases sound with
  | object keys => exact keys

theorem spelled_body {payload : Text} {record : OrderLine}
    (given : ofPayload payload = .ok record) :
    Spelled record.written (record.fields.map Spelling.ofMember) := by
  have accepted := FailureLine.ofPayload_eq_ok_iff.1 given
  have sound := Json.sound_of_read (Json.read_of_readObject accepted)
  exact Json.spelled_written sound record.fields_ne_nil

/-- However the body is taken apart, the identifier stands once in it. -/
theorem count_idKey {payload : Text} {record : OrderLine} {spellings : List Spelling}
    (given : ofPayload payload = .ok record) (spelled : Spelled record.written spellings) :
    (spellings.map Spelling.key).count idKey = 1 := by
  have same := congrArg (List.map Prod.fst) ((spelled_body given).unique spelled)
  rw [List.map_map, List.map_map, List.map_map] at same
  have keys : spellings.map Spelling.key = record.fields.map Prod.fst := same.symm
  obtain ⟨value, found, -⟩ := record.exists_named
  rw [keys]
  apply List.count_eq_one_of_mem (nodup_keys given)
  exact List.mem_map.2 ⟨_, Json.Members.mem_of_get? found, rfl⟩

/-- The text of the identifier in the body. -/
theorem valueText_of_named {payload : Text} {record : OrderLine} {m : Spelling}
    (given : ofPayload payload = .ok record)
    (listed : m ∈ record.fields.map Spelling.ofMember) (named : m.key = idKey) :
    m.valueText = Json.Quotation.render record.id ∨ m.valueText = record.id := by
  obtain ⟨⟨key, value⟩, kept, rfl⟩ := List.mem_map.1 listed
  obtain rfl : key = idKey := named
  obtain ⟨other, found, identified⟩ := record.exists_named
  rw [Json.Members.get?_of_mem (nodup_keys given) kept] at found
  obtain rfl := Option.some.inj found
  exact (written_of_identifier? identified).2

/-- A payload gives an order line exactly if it is accepted, once repaired, as an object that was
given a usable value last under the key of the identifier. The identifier is then that of this
value and not empty; the body has one member under the key, of which the text is the identifier,
quoted or as it is; and the path of an update ends in the identifier. -/
theorem identifier_agrees (payload : Text) :
    ((∃ record, ofPayload payload = .ok record) ↔
      (∃ fields, Json.readObject (Payload.DoubledQuotes.repair payload) = .ok fields) ∧
        ∃ spellings tree, Spelled (Payload.DoubledQuotes.repair payload) spellings ∧
          lastUnder idKey (spellings.map Spelling.member) = some tree ∧ tree.Names) ∧
    ∀ record, ofPayload payload = .ok record →
      record.id ≠ [] ∧
      (∃ spellings tree, Spelled (Payload.DoubledQuotes.repair payload) spellings ∧
        lastUnder idKey (spellings.map Spelling.member) = some tree ∧
          identifier? tree.read = some record.id) ∧
      (∀ spellings, Spelled record.written spellings →
        (spellings.map Spelling.key).count idKey = 1) ∧
      (∃ spellings, Spelled record.written spellings ∧ ∀ m ∈ spellings, m.key = idKey →
        m.valueText = Json.Quotation.render record.id ∨ m.valueText = record.id) ∧
      ∀ client session request,
        Okapi.Client.requestOf client (.update session record) = .ok request →
          request.body = record.written ∧
          ∃ url, Http.Url.ofText? (client.baseUrl ++ (Okapi.linesPath ++ '/' :: record.id)) =
            some url ∧ request.url = url.withoutUser := by
  have last {record : OrderLine} (given : ofPayload payload = .ok record) :
      ∃ spellings tree, Spelled (Payload.DoubledQuotes.repair payload) spellings ∧
        lastUnder idKey (spellings.map Spelling.member) = some tree ∧
          identifier? tree.read = some record.id := by
    obtain ⟨accepted, -⟩ := FailureLine.readObject_of_ofPayload given
    obtain ⟨spellings, spelled⟩ := Json.spelled_of_readObject accepted record.fields_ne_nil
    obtain ⟨value, found, identified⟩ := record.exists_named
    rw [Json.get?_of_spelled accepted spelled, Option.map_eq_some_iff] at found
    obtain ⟨tree, under, rfl⟩ := found
    exact ⟨spellings, tree, spelled, under, identified⟩
  refine ⟨⟨?_, ?_⟩, fun record given => ⟨?_, last given, ?_, ?_, ?_⟩⟩
  · rintro ⟨record, given⟩
    obtain ⟨accepted, -⟩ := FailureLine.readObject_of_ofPayload given
    obtain ⟨spellings, tree, spelled, under, identified⟩ := last given
    refine ⟨⟨_, accepted⟩, spellings, tree, spelled, under, ?_⟩
    exact (identifier?_read_isSome_iff tree).1 (by rw [identified]; rfl)
  · rintro ⟨⟨fields, accepted⟩, spellings, tree, spelled, under, names⟩
    refine (exists_ofPayload_iff payload).2 ⟨fields, accepted, ?_⟩
    rw [Json.Members.identifier?, Json.get?_of_spelled accepted spelled, under]
    exact (identifier?_read_isSome_iff tree).2 names
  · obtain ⟨value, -, identified⟩ := record.exists_named
    exact (written_of_identifier? identified).1
  · exact fun spellings spelled => count_idKey given spelled
  · exact ⟨_, spelled_body given, fun m listed named => valueText_of_named given listed named⟩
  · intro client session request made
    exact ⟨FailureLine.body_of_request made, Okapi.Client.address_of_requestOf made⟩

/-- A key that comes again, spelled with an escape, with a number that is written otherwise than
it stands, and the same key further down. -/
theorem identifier_agrees_last_number :
    let payload := "\x7b\"id\":\"a\",\"n\":\x7b\"id\":2\x7d,\"\\u0069d\":1.50\x7d".toList
    let client := Okapi.Client.loopback
    ∃ record request, ofPayload payload = .ok record ∧ record.id = "1.5".toList ∧
      client.requestOf (.update ⟨['s']⟩ record) = .ok request ∧
      request.body = "\x7b\"id\":1.5,\"n\":\x7b\"id\":2\x7d\x7d".toList ∧
      (∃ spellings, Spelled request.body spellings ∧ ∀ m ∈ spellings, m.key = idKey →
        m.valueText = Json.Quotation.render record.id ∨ m.valueText = record.id) ∧
      ∃ url, Http.Url.ofText? "http://[::1]:9130/orders-storage/po-lines/1.5".toList = some url ∧
        request.url = url.withoutUser := by
  intro payload client
  obtain ⟨record, request, recovered, made, body⟩ := FailureLine.request_of_sent?
    (by decide +kernel : FailureLine.sent? Payload.outerBraces client ⟨['s']⟩
      (FailureLine.marker ++ payload) =
        some "\x7b\"id\":1.5,\"n\":\x7b\"id\":2\x7d\x7d".toList)
  have found : Payload.outerBraces (FailureLine.marker ++ payload) = some payload := by
    decide +kernel
  have given := FailureLine.ofPayload_of_outcome recovered found
  have read : (ofPayload payload).toOption.map (·.id) = some "1.5".toList := by decide +kernel
  rw [given] at read
  have id : record.id = "1.5".toList := Option.some.inj read
  obtain ⟨-, -, -, spelled, sent⟩ := (identifier_agrees payload).2 record given
  obtain ⟨written, address⟩ := sent client ⟨['s']⟩ request made
  rw [id] at address
  rw [← written] at spelled
  exact ⟨record, request, given, id, made, body, spelled, address⟩

end OrderLine
end OrderReplay

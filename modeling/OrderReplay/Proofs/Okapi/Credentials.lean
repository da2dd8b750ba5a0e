import OrderReplay.Proofs.Json.Unambiguous
import OrderReplay.Proofs.Json.Printed
import OrderReplay.Proofs.Json.Written
import OrderReplay.Proofs.Okapi.Update

/-! The body of a login, whatever characters the name and the password are made of. By the grammar
of JSON it spells one object only, whose two members are the name and the password as they are. -/
namespace OrderReplay.Okapi.Credentials

open Json (Spells)

def members (c : Credentials) : Json.Members :=
  [("username".toList, .string c.username), ("password".toList, .string c.password)]

theorem sound_value (c : Credentials) : c.value.Sound Json.Reader.depthLimit := by
  have keys : (c.members.map Prod.fst).Nodup := by simp [members]
  refine .object keys fun m member => ?_
  simp only [List.mem_cons, List.not_mem_nil, or_false] at member
  rcases member with rfl | rfl
  · exact .string
  · exact .string

theorem integral_value (c : Credentials) : c.value.Integral := by
  intro n member
  simp [value, Json.Value.numbers, Json.Value.numbersOfMembers] at member

theorem readObject_body (c : Credentials) : Json.readObject c.written = .ok c.members :=
  Json.readObject_written c.sound_value c.integral_value

theorem spells_body (c : Credentials) : Spells c.written
    (.object
      [("username".toList, .string c.username), ("password".toList, .string c.password)]) := by
  have spells := Json.spells_written c.sound_value
  simp only [value, Json.Value.tree, Json.Value.treeMembers] at spells
  exact spells

theorem written_injective {c d : Credentials} (same : c.written = d.written) : c = d := by
  have read := c.readObject_body
  rw [same, d.readObject_body] at read
  obtain ⟨name, secret⟩ := c
  obtain ⟨other, hidden⟩ := d
  simp only [members, Except.ok.injEq, List.cons.injEq, Prod.mk.injEq, Json.Value.string.injEq,
    true_and, and_true] at read
  obtain ⟨rfl, rfl⟩ := read
  rfl

/-- The body of a login against who logs in. It is read as an object of two members, the name
and then the password, and spells nothing else; so it tells who logs in, and it is what a login
sends. -/
theorem login_body_faithful (c : Credentials) :
    Json.readObject c.written = .ok
      [("username".toList, .string c.username), ("password".toList, .string c.password)] ∧
    (∀ tree, Spells c.written tree ↔ tree = .object
      [("username".toList, .string c.username), ("password".toList, .string c.password)]) ∧
    (∀ other : Credentials, other.written = c.written → other = c) ∧
    ∀ (client : Client) (request : Http.Request),
      client.requestOf (.login c) = .ok request → request.body = c.written := by
  refine ⟨c.readObject_body, c.spells_body.iff_eq, fun other => written_injective, ?_⟩
  intro client request made
  obtain ⟨url, -, -, -, -, -, rfl⟩ := (Client.request_ok_iff client _ _ _ _ _).1 made
  rfl

/-- A name that would close its string and begin a second password, a backslash, a control and a
brace. -/
theorem login_body_faithful_bent :
    let c : Credentials := ⟨"a\",\"password\":\"b".toList, "\\\x01\x7d".toList⟩
    ∃ request, Client.loopback.requestOf (.login c) = .ok request ∧
      request.body = ("\x7b\"username\":\"a\\\",\\\"password\\\":\\\"b\"," ++
        "\"password\":\"\\\\\\u0001\x7d\"\x7d").toList ∧
      Json.readObject request.body = .ok
        [("username".toList, .string c.username), ("password".toList, .string c.password)] := by
  intro c
  obtain ⟨read, -, -, sent⟩ := login_body_faithful c
  have written : c.written = ("\x7b\"username\":\"a\\\",\\\"password\\\":\\\"b\"," ++
      "\"password\":\"\\\\\\u0001\x7d\"\x7d").toList := by decide +kernel
  have sendable : (Client.loopback.requestOf (.login c)).toOption.isSome = true := by decide +kernel
  cases made : Client.loopback.requestOf (.login c) with
  | error cause =>
    rw [made] at sendable
    cases sendable
  | ok request =>
    have body := sent Client.loopback request made
    refine ⟨request, rfl, body.trans written, ?_⟩
    rw [body]
    exact read

end OrderReplay.Okapi.Credentials

import OrderReplay.Proofs.Okapi.Verdict
import OrderReplay.Proofs.Text.Decoded

/-! What it takes for a login to hand out a token, told by the head of its response. The first
field of the token's name decides alone; those behind it are not looked at. Every octet that may
stand in a token may also stand in the header of an update, so that no token that is handed out
keeps an update from being made. -/
namespace OrderReplay

namespace Http
open Text

/-- The first field of a name, which is given in lower case, has a value. -/
inductive First (name : Text) : List HeaderField → Octets → Prop where
  | here {sent value rest} (named : sent.map lowerOctet = Utf8.encode name) :
      First name ((sent, value) :: rest) value
  | behind {sent other rest value} (unlike : sent.map lowerOctet ≠ Utf8.encode name)
      (first : First name rest value) : First name ((sent, other) :: rest) value

theorem valuesOf_cons_of_named {name : Text} {sent value : Octets} {rest : List HeaderField}
    (named : sent.map lowerOctet = Utf8.encode name) :
    valuesOf name ((sent, value) :: rest) = value :: valuesOf name rest := by
  simp [valuesOf, named]

theorem valuesOf_cons_of_unlike {name : Text} {sent other : Octets} {rest : List HeaderField}
    (unlike : sent.map lowerOctet ≠ Utf8.encode name) :
    valuesOf name ((sent, other) :: rest) = valuesOf name rest := by
  simp [valuesOf, unlike]

theorem head?_valuesOf_iff {name : Text} {fields : List HeaderField} {value : Octets} :
    (valuesOf name fields).head? = some value ↔ First name fields value := by
  constructor
  · intro found
    induction fields with
    | nil => cases found
    | cons field rest ih =>
      obtain ⟨sent, other⟩ := field
      by_cases named : sent.map lowerOctet = Utf8.encode name
      · rw [valuesOf_cons_of_named named] at found
        obtain rfl := Option.some.inj found
        exact .here named
      · rw [valuesOf_cons_of_unlike named] at found
        exact .behind named (ih found)
  · intro first
    induction first with
    | here named => rw [valuesOf_cons_of_named named, List.head?_cons]
    | behind unlike _ ih => rw [valuesOf_cons_of_unlike unlike, ih]

def IsPlain (octet : UInt8) : Prop := octet = 9 ∨ 32 ≤ octet ∧ octet < 127

instance (octet : UInt8) : Decidable (IsPlain octet) :=
  inferInstanceAs (Decidable (octet = 9 ∨ 32 ≤ octet ∧ octet < 127))

theorem isPlain_iff {octets : Octets} :
    (octets.all fun octet => octet == 9 || (32 ≤ octet && octet < 127)) = true ↔
      ∀ octet ∈ octets, IsPlain octet := by
  simp [IsPlain]

theorem encode_plain {octets : Octets} (plain : ∀ octet ∈ octets, IsPlain octet) :
    Utf8.encode (octets.map fun octet => Char.ofNat octet.toNat) = octets := by
  induction octets with
  | nil => rfl
  | cons octet rest ih =>
    rw [List.forall_mem_cons] at plain
    have ascii : octet.toNat < 0x80 := by
      rcases plain.1 with rfl | ⟨-, below⟩
      · decide
      · exact Nat.lt_trans (UInt8.lt_iff_toNat_lt.1 below) (by decide)
    rw [List.map_cons, Utf8.encode_cons, Utf8.encode_ascii ascii, ih plain.2]
    rfl

theorem plainText?_eq_some_iff {octets : Octets} {text : Text} :
    plainText? octets = some text ↔
      octets = Utf8.encode text ∧ ∀ octet ∈ octets, IsPlain octet := by
  unfold plainText?
  rw [← isPlain_iff]
  constructor
  · intro read
    split at read
    next plain =>
      obtain rfl := Option.some.inj read
      exact ⟨(encode_plain (isPlain_iff.1 plain)).symm, plain⟩
    next => cases read
  · rintro ⟨same, plain⟩
    rw [if_pos plain]
    exact congrArg some
      (Utf8.encode_injective ((encode_plain (isPlain_iff.1 plain)).trans same))

end Http

namespace Okapi.Client
open Http Text

/-- The response to a login grants a token: its status is of no class of errors, and the first
field of the token's name holds the token, of which at least one character and only visible ASCII
characters, spaces and tabs may be. -/
structure Grants (response : Response) (token : Text) : Prop where
  accepted : ¬ (400 ≤ response.status.code ∧ response.status.code ≤ 599)
  first : First tokenHeader response.fields (Utf8.encode token)
  some_text : token ≠ []
  plain : ∀ octet ∈ Utf8.encode token, IsPlain octet

theorem token?_eq_some_iff {response : Response} {token : Text} :
    token? response = some token ↔ First tokenHeader response.fields (Utf8.encode token) ∧
      token ≠ [] ∧ ∀ octet ∈ Utf8.encode token, IsPlain octet := by
  simp only [token?, Option.filter_eq_some_iff, Option.bind_eq_some_iff,
    Response.header?, head?_valuesOf_iff, plainText?_eq_some_iff, decide_eq_true_eq]
  constructor
  · rintro ⟨⟨_, first, rfl, plain⟩, some_text⟩
    exact ⟨first, some_text, plain⟩
  · rintro ⟨first, some_text, plain⟩
    exact ⟨⟨_, first, rfl, plain⟩, some_text⟩

variable {client : Client} {network : Network} {received : List Request}
  {credentials : Credentials} {response : Response} {token : Text}

theorem Grants.carried (grants : Grants response token) : token? response = some token :=
  token?_eq_some_iff.2 ⟨grants.first, grants.some_text, grants.plain⟩

def refusal (response : Response) : Failure :=
  if 400 ≤ response.status.code ∧ response.status.code ≤ 599 then
    .rejected .post loginPath response.status response.text
  else .missingToken

theorem login_of_grants (grants : Grants response token)
    (given : client.responseTo? network received (.login credentials) = some response) :
    (client.login network received credentials).1 = .ok ⟨token⟩ := by
  rw [login_of_response given, if_neg grants.accepted, grants.carried]

theorem login_of_ungranted (ungranted : ∀ token, ¬ Grants response token)
    (given : client.responseTo? network received (.login credentials) = some response) :
    (client.login network received credentials).1 = .error (refusal response) := by
  rw [login_of_response given, refusal]
  split
  next => rfl
  next accepted =>
    cases carried : token? response with
    | none => rfl
    | some token =>
      obtain ⟨first, some_text, plain⟩ := token?_eq_some_iff.1 carried
      exact absurd ⟨accepted, first, some_text, plain⟩ (ungranted token)

/-- A token that is granted is put into every request of an update, and decides neither whether
there is one nor, where there is none, for which cause. -/
theorem requestOf_update_of_grants (client : Client) (grants : Grants response token)
    (line : OrderLine) :
    client.requestOf (.update ⟨token⟩ line) =
      (client.request .put (linePath line) none line.written).map
        fun request => { request with token := some token } := by
  have usable : (some token).all isHeaderText = (none : Option Text).all isHeaderText :=
    isHeaderText_of_plainText? (plainText?_eq_some_iff.2 ⟨rfl, grants.plain⟩)
  rw [requestOf, request_congr client .put _ line.written line.written usable]
  cases made : client.request .put (linePath line) none line.written with
  | error => rfl
  | ok request =>
    obtain ⟨-, -, body⟩ := request_kept made
    rw [← body]
    rfl

end Okapi.Client
end OrderReplay

import OrderReplay.Proofs.Okapi.Resource

/-! Which requests the updates of a client are. A request is made in one way only, and is
received as it is made. -/
namespace OrderReplay.Okapi
open Http

def Call.path : Call → Text
  | .login _ => loginPath
  | .update _ line => linePath line

namespace Client

/-- What a request is made of, where one is made at all. -/
theorem request_ok_iff (client : Client) (method : Method) (path : Text) (token : Option Text)
    (body : Text) (request : Request) :
    client.request method path token body = .ok request ↔
      ∃ url, Url.ofText? (client.baseUrl ++ path) = some url ∧ url.hasHost = true ∧
        isHeaderText client.tenant = true ∧ token.all isHeaderText = true ∧
        isSendable url.withoutUser = true ∧
        request = ⟨method, url.withoutUser, client.tenant, token, contentType, body⟩ := by
  unfold Client.request
  split
  · rename_i unread
    simp [unread]
  · rename_i url read
    constructor
    · intro made
      split at made
      · cases made
      · rename_i hosted
        dsimp only at made
        split at made
        · rename_i headers
          split at made
          · rename_i sendable
            cases made
            rw [Bool.and_eq_true] at headers
            exact ⟨url, read, by simpa using hosted, headers.1, headers.2, sendable, rfl⟩
          · cases made
        · cases made
    · rintro ⟨other, reread, hosted, tenant, bearer, sendable, rfl⟩
      cases read.symm.trans reread
      rw [if_neg (by rw [hosted]; decide)]
      dsimp only
      rw [if_pos (by rw [tenant, bearer]; rfl), if_pos sendable]

/-- The request of a call goes where its path pasted to the base address says. -/
theorem address_of_requestOf {client : Client} {call : Call} {request : Request}
    (made : client.requestOf call = .ok request) :
    ∃ url, Url.ofText? (client.baseUrl ++ call.path) = some url ∧
      request.url = url.withoutUser := by
  cases call with
  | login credentials =>
    obtain ⟨url, read, -, -, -, -, rfl⟩ := (request_ok_iff client _ _ _ _ _).1 made
    exact ⟨url, read, rfl⟩
  | update session line =>
    obtain ⟨url, read, -, -, -, -, rfl⟩ := (request_ok_iff client _ _ _ _ _).1 made
    exact ⟨url, read, rfl⟩

/-- A request that the network receives when a line is updated, whichever network it is,
whatever it has received before, and in whichever session. -/
def Puts (client : Client) (line : OrderLine) (request : Request) : Prop :=
  ∃ network received session,
    (client.update network received session line).2 = request :: received

variable {client : Client} {line : OrderLine} {request : Request}

theorem update_received (network : Network) (received : List Request) (session : Session) :
    (client.update network received session line).2 =
      (client.exchange network received (.update session line)).2 := by
  unfold update
  split <;> rename_i answer <;> rw [answer]

/-- A request that is made is received unless nobody listens, and nothing else is. -/
theorem exchange_received (network : Network) (received : List Request) (call : Call) :
    (client.exchange network received call).2 =
      match client.requestOf call with
      | .error _ => received
      | .ok request =>
        if network received request = .unreachable then received else request :: received := by
  rw [exchange]
  cases made : client.requestOf call with
  | error cause => rfl
  | ok request =>
    dsimp only
    cases answered : network received request with
    | unreachable => rfl
    | answered octets closed =>
      dsimp only
      rw [if_neg (by simp)]
      split <;> rfl

theorem Puts.made (puts : client.Puts line request) :
    ∃ session, client.requestOf (.update session line) = .ok request := by
  obtain ⟨network, received, session, shape⟩ := puts
  refine ⟨session, ?_⟩
  have nothing : received ≠ request :: received := fun same => by
    have lengths := congrArg List.length same
    rw [List.length_cons] at lengths
    omega
  rw [update_received, exchange_received] at shape
  split at shape
  · exact absurd shape nothing
  · rename_i made
    split at shape
    · exact absurd shape nothing
    · rw [List.cons.injEq] at shape
      rw [made, shape.1]

variable {base : Url}

theorem address_below (given : Url.IsBase client.baseUrl base)
    (web : base.scheme = Url.http ∨ base.scheme = Url.https) (line : OrderLine) :
    ∃ url port, Url.ofText? (client.baseUrl ++ linePath line) = some url ∧ url.hasHost = true ∧
      url.origin = base.origin ∧ url.target = resourceOf port line.id := by
  obtain ⟨a, port, authority, host, read⟩ := given.below web (below ++ line.id)
  rw [authority] at read
  refine ⟨_, port, linePath_shape line ▸ read, ?_, ?_, target_eq port base.scheme line.id a⟩
  · simp [Url.hasHost, Url.rooted, Url.withPath, host]
  · simp [Url.origin, Url.rooted, Url.withPath, authority]

/-- Every request that an update makes stays on the server of the base address. What it
asks for there depends on the identifier alone. -/
theorem Puts.resource (given : Url.IsBase client.baseUrl base)
    (puts : client.Puts line request) :
    request.method = .put ∧ request.url.origin = base.origin ∧
      ∃ port, request.url.target = resourceOf port line.id := by
  obtain ⟨session, made⟩ := puts.made
  obtain ⟨url, read, -, -, -, sendable, rfl⟩ := (request_ok_iff client _ _ _ _ _).1 made
  have web : base.scheme = Url.http ∨ base.scheme = Url.https := by
    have kept : url.withoutUser.scheme = url.scheme :=
      congrArg Prod.fst (Url.withoutUser_origin url)
    simp only [isSendable, Bool.and_eq_true, Bool.or_eq_true, beq_iff_eq, kept,
      given.scheme_below read] at sendable
    exact sendable.1.1
  obtain ⟨same, port, reread, -, origin, target⟩ := address_below given web line
  cases read.symm.trans reread
  exact ⟨rfl, (Url.withoutUser_origin url).trans origin, port,
    (Url.withoutUser_target url).trans target⟩

/-- A put addresses its own line exactly where the identifier is literal, and two literal
identifiers never share a resource. No identifier at all leads to another server, and
below any server of the web every line has an address. -/
theorem put_addresses_own_line (client : Client) (base : Url)
    (given : Url.IsBase client.baseUrl base) :
    (∀ line request, client.Puts line request →
      request.method = .put ∧ request.url.origin = base.origin ∧
        (OwnResource line.id request.url.target ↔ isLiteral line.id = true)) ∧
    (∀ line other request another, client.Puts line request → client.Puts other another →
      isLiteral line.id = true → isLiteral other.id = true →
        request.url.target = another.url.target → line.id = other.id) ∧
    ((base.scheme = Url.http ∨ base.scheme = Url.https) → ∀ line, ∃ url,
      Url.ofText? (client.baseUrl ++ linePath line) = some url ∧
        ∀ (network : Network) received (session : Session),
          let request : Request :=
            ⟨.put, url.withoutUser, client.tenant, some session.token, contentType, line.written⟩
          isHeaderText client.tenant = true → isHeaderText session.token = true →
            isSendable request.url = true → network received request ≠ .unreachable →
              (client.update network received session line).2 = request :: received) := by
  have own {line : OrderLine} {request : Request} (puts : client.Puts line request) :
      OwnResource line.id request.url.target ↔ isLiteral line.id = true := by
    obtain ⟨-, -, port, target⟩ := puts.resource given
    rw [target]
    exact ownResource_iff port line.id
  refine ⟨fun line request puts => ?_, fun line other request another puts reputs => ?_,
    fun web line => ?_⟩
  · obtain ⟨method, origin, -⟩ := puts.resource given
    exact ⟨method, origin, own puts⟩
  · intro literal again same
    have first := (own puts).2 literal
    have second := (own reputs).2 again
    rw [same] at first
    exact first.unique second
  · obtain ⟨url, port, read, hosted, -, -⟩ := address_below given web line
    refine ⟨url, read, fun network received session => ?_⟩
    intro request tenant token sendable reached
    have made : client.requestOf (.update session line) = .ok request :=
      (request_ok_iff client _ _ _ _ _).2 ⟨url, read, hosted, tenant, token, sendable, rfl⟩
    rw [update_received, exchange_received, made]
    exact if_neg reached

/-- A server on the machine itself, and an address below it. -/
def loopback : Client := ⟨"http://[::1]:9130".toList, ['t'], some 60⟩

def loopbackUrl (segments : List Text) : Url :=
  ⟨Url.http, some ⟨[], none, .v6 [0, 0, 0, 0, 0, 0, 0, 1], some 9130⟩, .segments segments, none,
    none⟩

theorem loopback_isBase : Url.IsBase loopback.baseUrl (loopbackUrl [[]]) where
  shape := ⟨"http".toList, "[::1]:9130".toList, rfl, by decide, by decide⟩
  read := by decide +kernel

def loopbackPut (segments : List Text) (line : OrderLine) : Request :=
  ⟨.put, loopbackUrl segments, ['t'], some ['s'], contentType, line.written⟩

theorem loopback_puts {segments : List Text} {line : OrderLine}
    (made : (loopback.requestOf (.update ⟨['s']⟩ line)).toOption =
      some (loopbackPut segments line)) : loopback.Puts line (loopbackPut segments line) := by
  refine ⟨fun _ _ => .hung, [], ⟨['s']⟩, ?_⟩
  rw [update_received, exchange_received]
  cases given : loopback.requestOf (.update ⟨['s']⟩ line) with
  | error cause =>
    rw [given] at made
    cases made
  | ok request =>
    rw [given] at made
    cases made
    rfl

/-- A blank within an identifier, and a percent sign that begins no escape. -/
theorem put_addresses_own_line_of_blank :
    let line : OrderLine := ⟨[(idKey, .string "a b%zz".toList)], "a b%zz".toList, rfl⟩
    let request := loopbackPut [storage, lines, "a%20b%zz".toList] line
    Url.IsBase loopback.baseUrl (loopbackUrl [[]]) ∧ loopback.Puts line request ∧
      request.url.target = "/orders-storage/po-lines/a%20b%zz".toList ∧
      OwnResource line.id request.url.target := by
  intro line request
  have puts : loopback.Puts line request := loopback_puts (by decide +kernel)
  have literal : isLiteral line.id = true := by decide
  obtain ⟨-, -, own⟩ :=
    (put_addresses_own_line loopback (loopbackUrl [[]]) loopback_isBase).1 line request puts
  exact ⟨loopback_isBase, puts, by decide, own.2 literal⟩

/-- A double dot within an identifier is resolved, so that the put of one line reaches the
resource of another. -/
theorem put_addresses_other_line :
    let line : OrderLine := ⟨[(idKey, .string "a/../b".toList)], "a/../b".toList, rfl⟩
    let other : OrderLine := ⟨[(idKey, .string "b".toList)], "b".toList, rfl⟩
    ∃ request another, Url.IsBase loopback.baseUrl (loopbackUrl [[]]) ∧
      loopback.Puts line request ∧ loopback.Puts other another ∧ line.id ≠ other.id ∧
      request.url.target = another.url.target ∧ ¬ OwnResource line.id request.url.target := by
  intro line other
  let request := loopbackPut [storage, lines, "b".toList] line
  let another := loopbackPut [storage, lines, "b".toList] other
  have puts : loopback.Puts line request := loopback_puts (by decide +kernel)
  have reputs : loopback.Puts other another := loopback_puts (by decide +kernel)
  refine ⟨request, another, loopback_isBase, puts, reputs, by decide, rfl, fun own => ?_⟩
  have others : OwnResource other.id request.url.target :=
    ⟨"b".toList, by decide, by decide, by decide, by decide⟩
  exact absurd (own.unique others) (by decide)

end Client

end OrderReplay.Okapi

import OrderReplay.Proofs.Okapi.Update
import OrderReplay.Proofs.Replay.Record

/-! What a client makes of a password and of a token: the body of the login takes the one,
a header of the updates takes the other, and neither decides whether a request is made or
what becomes of it. Clients that hear the same from their networks therefore give the same
answers, whatever their secrets are. -/
namespace OrderReplay

/-- A request without its secret: a login without its body, an update without its token. -/
def Http.Request.veiled (r : Http.Request) : Http.Request :=
  match r.method with
  | .post => { r with body := [] }
  | .put => { r with token := none }

namespace Okapi
open Http

theorem url_of_veiled {one other : Request} (h : one.veiled = other.veiled) :
    one.url = other.url := by
  have kept (r : Request) : r.veiled.url = r.url := by
    unfold Request.veiled
    split <;> rfl
  rw [← kept one, h, kept other]

namespace Client

/-- Whether a request is made does not depend on its body, and depends on its token only
where that cannot be a header. -/
theorem request_congr (client : Client) (method : Method) (path body body' : Text)
    {token token' : Option Text} (usable : token'.all isHeaderText = token.all isHeaderText) :
    client.request method path token' body' = (client.request method path token body).map
      fun r => { r with token := token', body := body' } := by
  unfold request
  rw [usable]
  split
  next => rfl
  next url read =>
    split
    next => rfl
    next =>
      dsimp only
      split
      next => split <;> rfl
      next => rfl

theorem request_kept {client : Client} {method : Method} {path : Text} {token : Option Text}
    {body : Text} {request : Request}
    (made : client.request method path token body = .ok request) :
    request.method = method ∧ request.token = token ∧ request.body = body := by
  obtain ⟨url, -, -, -, -, -, rfl⟩ := (request_ok_iff client _ _ _ _ _).1 made
  exact ⟨rfl, rfl, rfl⟩

theorem requestOf_login (client : Client) (one other : Credentials) :
    (client.requestOf (.login one)).map Request.veiled =
      (client.requestOf (.login other)).map Request.veiled := by
  simp only [requestOf]
  rw [request_congr client .post loginPath one.written other.written (Eq.refl (none.all _))]
  cases made : client.request .post loginPath none one.written with
  | error => rfl
  | ok request =>
    obtain ⟨method, token, -⟩ := request_kept made
    simp [Except.map, Request.veiled, method, token]

theorem requestOf_update (client : Client) (line : OrderLine) {one other : Session}
    (usable : isHeaderText one.token = true) (usable' : isHeaderText other.token = true) :
    (client.requestOf (.update one line)).map Request.veiled =
      (client.requestOf (.update other line)).map Request.veiled := by
  have same : (some other.token).all isHeaderText = (some one.token).all isHeaderText :=
    usable'.trans usable.symm
  simp only [requestOf]
  rw [request_congr client .put (linePath line) line.written line.written same]
  cases made : client.request .put (linePath line) (some one.token) line.written with
  | error => rfl
  | ok request =>
    obtain ⟨method, -, body⟩ := request_kept made
    simp [Except.map, Request.veiled, method, body]

/-- What a delivery tells, but for the token. -/
inductive Gist where
  | unreachable
  | flawed (flaw : WireFlaw) (closed : Bool)
  /-- Only whether there is a token that can be used is told of it. -/
  | response (status : Status) (text : Text) (bearing : Bool)
  deriving DecidableEq, Repr

def gist : Delivery → Gist
  | .unreachable => .unreachable
  | .answered octets closed =>
    match Wire.response octets closed with
    | .error flaw => .flawed flaw closed
    | .ok response => .response response.status response.text (token? response).isSome

/-- What the client reads of a response, but for the token. -/
def told (response : Response) : Status × Text × Bool :=
  (response.status, response.text, (token? response).isSome)

def Gist.outcome (url : Text) : Gist → Except TransportFailure (Status × Text × Bool)
  | .unreachable | .flawed .malformed _ => .error (.unanswered url false)
  | .flawed .unfinished closed => .error (.unanswered url (!closed))
  | .response status text bearing => .ok (status, text, bearing)

theorem told_exchange {client : Client} {network : Network} {received : List Request}
    {call : Call} {request : Request} (made : client.requestOf call = .ok request) :
    (client.exchange network received call).1.map told =
      (gist (network received request)).outcome request.url.shown := by
  simp only [exchange, made]
  cases network received request with
  | unreachable => rfl
  | answered octets closed =>
    simp only [gist]
    cases Wire.response octets closed with
    | ok response => rfl
    | error flaw => cases flaw <;> rfl

theorem gist_eq_unreachable {delivery : Delivery} :
    gist delivery = .unreachable ↔ delivery = .unreachable := by
  cases delivery with
  | unreachable => exact ⟨fun _ => rfl, fun _ => rfl⟩
  | answered octets closed =>
    simp only [gist]
    cases Wire.response octets closed <;> simp

/-- What the network delivers to calls that are made one after the other. A call for which
no request can be made is delivered nothing. -/
def heard (client : Client) (network : Network) : List Request → List Call → List Delivery
  | _, [] => []
  | received, call :: rest =>
    (client.requestOf call).toOption.toList.map (network received) ++
      heard client network (client.exchange network received call).2 rest

structure Matched (client : Client) (n m : Network) (received received' : List Request)
    (one other : Call) : Prop where
  made : (client.requestOf one).map Request.veiled = (client.requestOf other).map Request.veiled
  gist : ((client.requestOf one).toOption.map fun r => gist (n received r)) =
    (client.requestOf other).toOption.map fun r => gist (m received' r)

variable {client : Client} {n m : Network} {received received' : List Request}
  {one other : Call}

theorem Matched.cases (h : Matched client n m received received' one other) :
    (∃ cause, client.requestOf one = .error cause ∧ client.requestOf other = .error cause) ∨
    ∃ r r', client.requestOf one = .ok r ∧ client.requestOf other = .ok r' ∧
      r.veiled = r'.veiled ∧ Client.gist (n received r) = Client.gist (m received' r') := by
  obtain ⟨made, gist⟩ := h
  cases first : client.requestOf one with
  | error cause =>
    cases second : client.requestOf other with
    | error cause' =>
      rw [first, second] at made
      cases made
      exact .inl ⟨cause, rfl, rfl⟩
    | ok => rw [first, second] at made; cases made
  | ok r =>
    cases second : client.requestOf other with
    | error => rw [first, second] at made; cases made
    | ok r' =>
      rw [first, second] at made gist
      exact .inr ⟨r, r', rfl, rfl, Except.ok.inj made, Option.some.inj gist⟩

/-- Matched calls come to the same, but for the token of a response. -/
theorem Matched.told (h : Matched client n m received received' one other) :
    (client.exchange n received one).1.map told =
      (client.exchange m received' other).1.map Client.told := by
  rcases h.cases with ⟨cause, first, second⟩ | ⟨r, r', first, second, veiled, same⟩
  · simp only [exchange, first, second, Except.map]
  · rw [told_exchange first, told_exchange second, same, url_of_veiled veiled]

theorem Matched.behind (h : Matched client n m received received' one other)
    (before : received.map Request.veiled = received'.map Request.veiled) :
    (client.exchange n received one).2.map Request.veiled =
      (client.exchange m received' other).2.map Request.veiled := by
  rw [exchange_received, exchange_received]
  rcases h.cases with ⟨cause, first, second⟩ | ⟨r, r', first, second, veiled, same⟩
  · simp only [first, second, before]
  · have lost : n received r = .unreachable ↔ m received' r' = .unreachable := by
      rw [← gist_eq_unreachable, same, gist_eq_unreachable]
    simp only [first, second, lost]
    split
    next => exact before
    next => rw [List.map_cons, List.map_cons, veiled, before]

/-- The deliveries to two lists of calls agree if they agree on the first calls, and behind
them. -/
theorem matched_of_heard {calls calls' : List Call}
    (made : (client.requestOf one).map Request.veiled =
      (client.requestOf other).map Request.veiled)
    (same : (client.heard n received (one :: calls)).map gist =
      (client.heard m received' (other :: calls')).map gist) :
    Matched client n m received received' one other ∧
      (client.heard n (client.exchange n received one).2 calls).map gist =
        (client.heard m (client.exchange m received' other).2 calls').map gist := by
  simp only [heard, List.map_append] at same
  cases first : client.requestOf one with
  | error cause =>
    cases second : client.requestOf other with
    | error cause' =>
      rw [first, second] at same
      exact ⟨⟨made, by rw [first, second]; rfl⟩, same⟩
    | ok => rw [first, second] at made; cases made
  | ok r =>
    cases second : client.requestOf other with
    | error => rw [first, second] at made; cases made
    | ok r' =>
      rw [first, second] at same
      obtain ⟨head, rest⟩ := List.cons.inj same
      exact ⟨⟨made, by rw [first, second]; exact congrArg some head⟩, rest⟩

/-! ### Answers -/

theorem check_of_told {method : Method} {path : Text} {r r' : Response} (h : told r = told r') :
    (check method path r).map (fun _ => ()) = (check method path r').map fun _ => () := by
  simp only [told, Prod.mk.injEq] at h
  unfold check
  rw [h.1, h.2.1]
  split <;> rfl

/-- Whether a login is accepted, and for what cause it is not, is told without the token. -/
theorem sessionOf_of_told {r r' : Response} (h : told r = told r') :
    (sessionOf r).map (fun _ => ()) = (sessionOf r').map fun _ => () := by
  simp only [told, Prod.mk.injEq] at h
  obtain ⟨status, text, bearing⟩ := h
  unfold sessionOf check
  rw [status, text]
  by_cases rejected : r'.status.rejects = true
  · rw [if_pos rejected, if_pos rejected]
  · rw [if_neg rejected, if_neg rejected]
    dsimp only
    cases one : token? r with
    | none =>
      cases other : token? r' with
      | none => rfl
      | some => rw [one, other] at bearing; cases bearing
    | some =>
      cases other : token? r' with
      | none => rw [one, other] at bearing; cases bearing
      | some => rfl

theorem told_cases {x y : Except TransportFailure Response} (h : x.map told = y.map told) :
    (∃ cause, x = .error cause ∧ y = .error cause) ∨
      ∃ r r', x = .ok r ∧ y = .ok r' ∧ told r = told r' := by
  cases x <;> cases y <;> simp_all [Except.map]

theorem update_answer (session : Session) (line : OrderLine) :
    (client.update n received session line).1 =
      match (client.exchange n received (.update session line)).1 with
      | .error cause => .error (.transport cause)
      | .ok response => (check .put (linePath line) response).map fun _ => () := by
  unfold update
  rcases client.exchange n received (.update session line) with ⟨_ | _, _⟩ <;> rfl

theorem login_answer (credentials : Credentials) :
    (client.login n received credentials).1 =
      match (client.exchange n received (.login credentials)).1 with
      | .error cause => .error (.transport cause)
      | .ok response => sessionOf response := by
  unfold login
  rcases client.exchange n received (.login credentials) with ⟨_ | _, _⟩ <;> rfl

theorem login_received (credentials : Credentials) :
    (client.login n received credentials).2 =
      (client.exchange n received (.login credentials)).2 := by
  unfold login
  rcases client.exchange n received (.login credentials) with ⟨_ | _, _⟩ <;> rfl

theorem update_matched {line : OrderLine} {session session' : Session}
    (h : Matched client n m received received' (.update session line) (.update session' line)) :
    (client.update n received session line).1 = (client.update m received' session' line).1 := by
  rw [update_answer, update_answer]
  rcases told_cases h.told with ⟨cause, first, second⟩ | ⟨r, r', first, second, told⟩
  · rw [first, second]
  · rw [first, second]
    exact check_of_told told

theorem login_matched {credentials credentials' : Credentials}
    (h : Matched client n m received received' (.login credentials) (.login credentials')) :
    (client.login n received credentials).1.map (fun _ => ()) =
      (client.login m received' credentials').1.map fun _ => () := by
  rw [login_answer, login_answer]
  rcases told_cases h.told with ⟨cause, first, second⟩ | ⟨r, r', first, second, told⟩
  · rw [first, second]
  · rw [first, second]
    exact sessionOf_of_told told

theorem isHeaderText_of_plainText? {octets : Octets} {text : Text}
    (h : plainText? octets = some text) : isHeaderText text = true := by
  have each : ∀ n < 127, n = 9 ∨ 32 ≤ n → isHeaderText [Char.ofNat n] = true := by
    decide +kernel
  unfold plainText? at h
  split at h
  next plain =>
    obtain rfl := Option.some.inj h
    unfold isHeaderText
    rw [List.all_map, List.all_eq_true]
    intro octet member
    have visible := List.all_eq_true.1 plain octet member
    simp only [Bool.or_eq_true, beq_iff_eq, decide_eq_true_eq, Bool.and_eq_true] at visible
    have single := each octet.toNat (by rcases visible with rfl | ⟨-, below⟩; decide; exact below)
      (by rcases visible with rfl | ⟨above, -⟩; exact .inl rfl; exact .inr above)
    simpa [isHeaderText] using single
  next => cases h

theorem token?_of_sessionOf {response : Response} {session : Session}
    (opened : sessionOf response = .ok session) : token? response = some session.token := by
  unfold sessionOf check at opened
  split at opened
  next => cases opened
  next accepted is =>
    split at is
    next => cases is
    next =>
      obtain rfl := Except.ok.inj is
      split at opened
      next token given =>
        obtain rfl := Except.ok.inj opened
        exact given
      next => cases opened

/-- A token that a login hands out can be a header. -/
theorem isHeaderText_of_login {credentials : Credentials} {session : Session}
    (accepted : (client.login n received credentials).1 = .ok session) :
    isHeaderText session.token = true := by
  rw [login_answer] at accepted
  split at accepted
  next => cases accepted
  next response _ =>
    have given := token?_of_sessionOf accepted
    obtain ⟨plain, -⟩ := Option.filter_eq_some_iff.1 given
    obtain ⟨octets, -, text⟩ := Option.bind_eq_some_iff.1 plain
    exact isHeaderText_of_plainText? text

theorem after_received (call : Call) :
    (client.service n).after received call = (client.exchange n received call).2 := by
  cases call with
  | login credentials => exact login_received credentials
  | update session line => exact update_received n received session

/-- No request that the network has received is forgotten. -/
theorem suffix_received (calls : List Call) (received : List Request) :
    received <:+ calls.foldl (client.service n).after received := by
  induction calls generalizing received with
  | nil => exact List.suffix_refl received
  | cons call rest ih =>
    refine List.IsSuffix.trans ?_ (ih _)
    rw [after_received, exchange_received]
    split
    next => exact List.suffix_refl received
    next request _ =>
      split
      next => exact List.suffix_refl received
      next => exact List.suffix_cons request received

/-- The network receives no request but those of the calls. -/
theorem mem_received {calls : List Call} {request : Request}
    (h : request ∈ calls.foldl (client.service n).after received) :
    request ∈ received ∨ ∃ call ∈ calls, client.requestOf call = .ok request := by
  induction calls generalizing received with
  | nil => exact .inl h
  | cons call rest ih =>
    rcases ih h with before | ⟨later, member, made⟩
    · rw [after_received, exchange_received] at before
      split at before
      next => exact .inl before
      next made =>
        split at before
        next => exact .inl before
        next =>
          rcases List.mem_cons.1 before with rfl | before
          · exact .inr ⟨call, List.mem_cons_self, made⟩
          · exact .inl before
    · exact .inr ⟨later, List.mem_cons_of_mem call member, made⟩

theorem replies_of_heard {session session' : Session}
    (usable : isHeaderText session.token = true) (usable' : isHeaderText session'.token = true)
    (lines : List OrderLine)
    (same : (client.heard n received (lines.map (.update session))).map gist =
      (client.heard m received' (lines.map (.update session'))).map gist) :
    (client.service n).replies session received lines =
      (client.service m).replies session' received' lines ∧
    (received.map Request.veiled = received'.map Request.veiled →
      ((lines.map (.update session)).foldl (client.service n).after received).map
          Request.veiled =
        ((lines.map (.update session')).foldl (client.service m).after received').map
          Request.veiled) := by
  induction lines generalizing received received' with
  | nil => exact ⟨rfl, id⟩
  | cons line rest ih =>
    obtain ⟨matched, behind⟩ := matched_of_heard (requestOf_update client line usable usable') same
    rw [← update_received, ← update_received] at behind
    obtain ⟨replies, requests⟩ := ih behind
    refine ⟨List.cons_eq_cons.2 ⟨update_matched matched, replies⟩, fun before => requests ?_⟩
    rw [update_received, update_received]
    exact matched.behind before

end Client
end Okapi

end OrderReplay

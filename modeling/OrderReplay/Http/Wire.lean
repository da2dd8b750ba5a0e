import OrderReplay.Http.Chunked
import OrderReplay.Http.Status

/-! Responses as octets. The fields of a response tell where its body ends: with the last
chunk, after so many octets, or where the connection does. The number of fields is limited,
but not the octets of a head. -/
namespace OrderReplay.Http

inductive Body where
  | whole (octets : Octets)
  /-- It never comes whole: it is ill-formed, or the connection was closed too early. -/
  | broken
  /-- Not all of it is there, and the connection is open. -/
  | pending
  deriving DecidableEq, Repr

structure Response where
  status : Status
  fields : List HeaderField
  body : Body
  deriving DecidableEq, Repr

namespace Response

/-- The first value of a field. Names are compared without regard to case. -/
def header? (r : Response) (name : Text) : Option Octets := (valuesOf name r.fields).head?

/-- The body as text. A body that did not arrive whole counts as none. -/
def text (r : Response) : Text :=
  match r.body with
  | .whole octets => Text.Utf8.decode octets
  | .broken | .pending => []

end Response

namespace Wire

structure StatusLine where
  /-- Whether it is of the later version, in which bodies may come in chunks. -/
  chunkable : Bool
  status : Status
  deriving DecidableEq, Repr

def skipLines : Octets → Except WireFlaw Octets
  | 10 :: rest | 13 :: 10 :: rest => skipLines rest
  | [13] => .error .unfinished
  | 13 :: _ => .error .malformed
  | octets => .ok octets

def number : Nat → Nat → Octets → Except WireFlaw (Nat × Octets)
  | 0, total, octets => .ok (total, octets)
  | _, _, [] => .error .unfinished
  | count + 1, total, octet :: rest =>
    match Text.digit? (Char.ofNat octet.toNat) with
    | some digit => number count (total * 10 + digit) rest
    | none => .error .malformed

/-- The status line: version, three digits, and a reason, which may be missing and tells
nothing. -/
def statusLine (octets : Octets) : Except WireFlaw (StatusLine × Octets) := do
  let rest ← expect (Text.Utf8.encode "HTTP/1.".toList) (← skipLines octets)
  let (minor, rest) ← number 1 0 rest
  if 1 < minor then .error .malformed
  let (code, rest) ← number 3 0 (← expect [32] rest)
  let rest ← match rest with
    | [] | [13] => .error .unfinished
    | 10 :: rest | 13 :: 10 :: rest => .ok rest
    | 32 :: rest => (fieldValue rest).map Prod.snd
    | _ => .error .malformed
  match Status.ofCode? code with
  | none => .error .malformed
  | some status => .ok (⟨minor == 1, status⟩, rest)

inductive Framing where
  | counted (octets : Nat)
  | chunked
  | untilClosed
  deriving DecidableEq, Repr

def lengthLimit : Nat := Nat.pow 2 64 - 3

def length? (text : Text) : Option Nat := do
  if text.isEmpty then none
  let length ← text.foldl (fun total c => do
    some ((← total) * 10 + (← Text.digit? c))) (some 0)
  if length ≤ lengthLimit then some length else none

def commonLength? (values : List Octets) : Option Nat := do
  let texts ← values.mapM plainText?
  let lengths ← (texts.flatMap (Text.pieces ',')).mapM fun text => length? (Text.trim text)
  match lengths with
  | [] => none
  | length :: others => if others.all (· == length) then some length else none

def endsChunked (values : List Octets) : Bool :=
  match (values.getLast?.bind plainText?).bind fun text => (Text.pieces ',' text).getLast? with
  | some coding => Text.lower (Text.trim coding) == "chunked".toList
  | none => false

/-- Some statuses have no body, whatever is said about it. A coding outdoes a length. -/
def framing (line : StatusLine) (list : List HeaderField) : Except WireFlaw Framing :=
  let codings := valuesOf "transfer-encoding".toList list
  let lengths := valuesOf "content-length".toList list
  if line.status.bodiless || line.status.code == 101 then .ok (.counted 0)
  else if !codings.isEmpty then
    if !line.chunkable then .error .malformed
    else .ok (if endsChunked codings then .chunked else .untilClosed)
  else if lengths.isEmpty then .ok .untilClosed
  else match commonLength? lengths with
    | some length => .ok (.counted length)
    | none => .error .malformed

def body (framing : Framing) (octets : Octets) (closed : Bool) : Body :=
  let unfinished : Body := if closed then .broken else .pending
  match framing with
  | .counted length => if length ≤ octets.length then .whole (octets.take length) else unfinished
  | .chunked =>
    match Chunked.decode octets with
    | .ok body => .whole body
    | .error .malformed => .broken
    | .error .unfinished => unfinished
  | .untilClosed => if closed then .whole octets else .pending

/-- Statuses that only announce a response. -/
def isInterim (status : Status) : Bool := status.code < 200 && status.code ≠ 101

/-- The response that octets give, behind any that announce it. Each of those takes
octets, so that their number is bounded. -/
def first : Nat → Octets → Bool → Except WireFlaw Response
  | 0, _, _ => .error .unfinished
  | fuel + 1, octets, closed => do
    let (line, rest) ← statusLine octets
    let (list, rest) ← fields fieldLimit rest
    if isInterim line.status then first fuel rest closed
    else .ok ⟨line.status, list, body (← framing line list) rest closed⟩

def response (octets : Octets) (closed : Bool) : Except WireFlaw Response :=
  first (octets.length + 1) octets closed

end Wire

/-- What a server writes: a status, of whatever number, fields, and a body. -/
structure Reply where
  code : Nat
  fields : List HeaderField
  body : Octets
  deriving DecidableEq, Repr

namespace Reply

def line (text : Text) : Octets := Text.Utf8.encode text ++ [13, 10]

def isBodiless (r : Reply) : Bool := r.code == 204 || r.code == 304

def written (r : Reply) : Octets :=
  let body := if r.isBodiless then [] else r.body
  line ("HTTP/1.1 ".toList ++ Text.ofNat r.code ++ [' ']) ++
    line ("content-length: ".toList ++ Text.ofNat body.length) ++
    (r.fields.flatMap fun (name, value) => name ++ [58, 32] ++ value ++ [13, 10]) ++
    [13, 10] ++ body

end Reply
end OrderReplay.Http

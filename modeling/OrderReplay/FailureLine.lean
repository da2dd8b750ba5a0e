import OrderReplay.OrderLine
import OrderReplay.Payload.DoubledQuotes
import OrderReplay.Payload.Extent

/-! Lines of the rollover log that report a failed update, and the order lines that
are recovered from them. -/
namespace OrderReplay

/-- Why a failure line gives no order line. The payload is kept as it stood in the
line, before any repair. -/
inductive Unrecovered where
  | noObject
  | invalidJson (payload : Text) (flaw : Json.Flaw)
  | missingId (payload : Text)
  deriving DecidableEq, Repr

def Unrecovered.message : Unrecovered → Text
  | .noObject => "No JSON object found on line".toList
  | .invalidJson payload _ => "Invalid JSON: ".toList ++ payload
  | .missingId payload => "JSON object has no usable id: ".toList ++ payload

def OrderLine.ofPayload (payload : Text) : Except Unrecovered OrderLine :=
  match Json.readObject (Payload.DoubledQuotes.repair payload) with
  | .error flaw => .error (.invalidJson payload flaw)
  | .ok fields =>
    match OrderLine.ofMembers? fields with
    | some line => .ok line
    | none => .error (.missingId payload)

namespace FailureLine

/-- What every line that reports a failed update contains. -/
def marker : Text := "Exception calling PUT /orders-storage/po-lines".toList

def isFailure (line : Text) : Bool := Text.occurs marker line

inductive Outcome where
  /-- The line reports no failed update. -/
  | skipped
  | recovered (line : OrderLine)
  | dropped (reason : Unrecovered)

def outcome (extent : Payload.Extent) (line : Text) : Outcome :=
  if isFailure line then
    match extent line with
    | none => .dropped .noObject
    | some payload =>
      match OrderLine.ofPayload payload with
      | .ok line => .recovered line
      | .error reason => .dropped reason
  else .skipped

theorem outcome_eq_skipped_iff (extent : Payload.Extent) (line : Text) :
    outcome extent line = .skipped ↔ isFailure line = false := by
  unfold outcome
  cases isFailure line with
  | false => simp
  | true =>
    cases extent line with
    | none => simp
    | some payload => cases h : OrderLine.ofPayload payload <;> simp [h]

end FailureLine
end OrderReplay

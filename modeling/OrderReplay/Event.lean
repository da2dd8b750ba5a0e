import OrderReplay.FailureLine
import OrderReplay.Failure

/-! What the program reports while it runs: one event per step that someone may later
want to look up. -/
namespace OrderReplay

namespace Replay

structure Tally where
  succeeded : Nat
  failed : Nat
  deriving DecidableEq, Repr

def Tally.zero : Tally := ⟨0, 0⟩

def Tally.attempted (t : Tally) : Nat := t.succeeded + t.failed

/-- A complete replay: lines of the log, failure lines that gave an order line, failure
lines that gave none, and updates by their answers. -/
structure Summary where
  lines : Nat
  parsed : Nat
  dropped : Nat
  tally : Tally
  deriving DecidableEq, Repr

end Replay

inductive Level where
  | error
  | warn
  | info
  | debug
  | trace
  deriving DecidableEq, Repr

namespace Level

/-- The higher the rank, the more is shown at a level. -/
def rank : Level → Nat
  | .error => 1
  | .warn => 2
  | .info => 3
  | .debug => 4
  | .trace => 5

def name : Level → Text
  | .error => "ERROR".toList
  | .warn => "WARN".toList
  | .info => "INFO".toList
  | .debug => "DEBUG".toList
  | .trace => "TRACE".toList

end Level

inductive Speaker where
  | log
  | replay
  | worker
  deriving DecidableEq, Repr

def Speaker.path : Speaker → Text
  | .log => "rollover_replay::source::reader".toList
  | .replay => "rollover_replay::replay".toList
  | .worker => "rollover_replay::replay::sequencer".toList

inductive Event where
  | logOpened (path : Text)
  | started (log okapi tenant : Text)
  | dropped (line : Nat) (reason : Unrecovered)
  | scanStopped (line : Nat)
  | finished (summary : Replay.Summary)
  | loggingIn (username : Text)
  | loginFailed (cause : Failure)
  | loggedIn
  | attempting (id : Text)
  | saved (id : Text)
  | notSaved (id : Text) (cause : Failure)
  deriving DecidableEq, Repr

namespace Event

def level : Event → Level
  | .logOpened _ | .scanStopped _ | .attempting _ => .debug
  | .started .. | .finished _ | .loggingIn _ | .loggedIn | .saved _ => .info
  | .dropped .. | .notSaved .. => .warn
  | .loginFailed _ => .error

def speaker : Event → Speaker
  | .logOpened _ => .log
  | .started .. | .dropped .. | .scanStopped _ | .finished _ => .replay
  | .loggingIn _ | .loginFailed _ | .loggedIn | .attempting _ | .saved _ | .notSaved .. => .worker

def message : Event → String
  | .logOpened _ => "Opened rollover log"
  | .started .. => "Starting rollover replay"
  | .dropped .. => "Dropping failure line"
  | .scanStopped _ => "Replay worker stopped, ending scan"
  | .finished _ => "Rollover replay finished"
  | .loggingIn _ => "Logging in to Okapi"
  | .loginFailed _ => "Login failed, no PO lines will be replayed"
  | .loggedIn => "Login successful"
  | .attempting _ => "Attempting to save order line"
  | .saved _ => "Order line saved"
  | .notSaved .. => "Order line was not saved"

def fields : Event → List (String × Text)
  | .logOpened path => [("path", path)]
  | .started log okapi tenant => [("log", log), ("okapi", okapi), ("tenant", tenant)]
  | .dropped line reason => [("line", Text.ofNat line), ("error", reason.message)]
  | .scanStopped line => [("line", Text.ofNat line)]
  | .finished s =>
    [("lines", Text.ofNat s.lines), ("parsed", Text.ofNat s.parsed),
      ("dropped", Text.ofNat s.dropped), ("attempted", Text.ofNat s.tally.attempted),
      ("succeeded", Text.ofNat s.tally.succeeded), ("failed", Text.ofNat s.tally.failed)]
  | .loggingIn username => [("username", username)]
  | .loginFailed cause => [("error", cause.message)]
  | .loggedIn => []
  | .attempting id | .saved id => [("id", id)]
  | .notSaved id cause => [("id", id), ("error", cause.message)]

def shown (e : Event) : Text :=
  e.level.name ++ ' ' :: e.message.toList ++
    e.fields.flatMap fun (name, value) => ' ' :: name.toList ++ '=' :: value

end Event
end OrderReplay

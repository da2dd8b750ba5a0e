import OrderReplay.CommandLine.Parse
import OrderReplay.Filter
import OrderReplay.Replay.Run
import OrderReplay.Settings

/-! The whole program as a function of its arguments, its environment, the files it can
open and the network it can reach. Arguments, variables and paths are texts. -/
namespace OrderReplay

inductive File where
  | refused (cause : Text)
  | opened (stream : Log.Stream)
  deriving DecidableEq, Repr

namespace File

def missing : File := .refused "No such file or directory (os error 2)".toList

/-- A path that goes on behind a file that is no directory. -/
def beyond : File := .refused "Not a directory (os error 20)".toList

/-- A directory can be opened, but not read. -/
def directory : File := .opened [.fault "Is a directory (os error 21)".toList]

def regular (octets : List UInt8) : File := .opened (.ofOctets octets)

end File

namespace Replay

/-- A run by settings: the log is opened before anything is sent. It remembers the
requests that the network has received, the newest first. -/
def runSettings (settings : Settings) (file : File) (network : Http.Network) :
    Report (List Http.Request) :=
  match file with
  | .refused cause => ⟨.error (.io cause), [], []⟩
  | .opened stream =>
    let client := settings.client
    let report := run ⟨Payload.outerBraces, client.service network, settings.credentials⟩ stream
    let opening : Trace :=
      [.event (.started settings.logPath client.baseUrl settings.tenant),
        .event (.logOpened settings.logPath)]
    { report with trace := report.trace ++ opening }

end Replay

namespace Program

def name : Text := "rollover-replay".toList
def version : Text := "0.1.0".toList

structure Abort where
  context : Text
  failure : Failure
  deriving DecidableEq, Repr

namespace Abort

def indented (margin : Text) (text : Text) : Text :=
  (('\n' :: margin).intercalate (Text.pieces '\n' text))

def numbered (n : Nat) (text : Text) : Text :=
  let number := Text.ofNat n
  List.replicate (5 - number.length) ' ' ++ number ++ ": ".toList ++
    indented (List.replicate 7 ' ') text

def numberedFrom (n : Nat) : List Text → List Text
  | [] => []
  | text :: rest => numbered n text :: numberedFrom (n + 1) rest

/-- The report: the stage, and below it the reasons, which are numbered if there are
several. -/
def report (a : Abort) : Text :=
  let reasons := match a.failure.causes with
    | [] => ["    ".toList ++ indented (List.replicate 4 ' ') a.failure.message]
    | causes => numberedFrom 0 (a.failure.message :: causes)
  "Error: ".toList ++ a.context ++ "\n\nCaused by:\n".toList ++ ['\n'].intercalate reasons

end Abort

inductive Ending where
  /-- The filter of events cannot be read to its end, so nothing is begun. -/
  | unfiltered
  | usage (error : CommandLine.UsageError)
  | notice (notice : CommandLine.Notice)
  | aborted (abort : Abort)
  | finished (summary : Replay.Summary)
  deriving DecidableEq, Repr

def Ending.exitCode : Ending → Nat
  | .unfiltered => 101
  | .usage _ => 2
  | .aborted _ => 1
  | .notice _ | .finished _ => 0

/-- A run, told as if every request that is never settled were given up at last. -/
structure Run where
  ending : Ending
  /-- Which events are shown. -/
  filter : Filter
  /-- The newest entry comes first. -/
  trace : Replay.Trace
  /-- The requests that the network received, the oldest first. -/
  requests : List Http.Request
  /-- Whether each of them was settled. A program that waits forever for one of them stays
  there: it has no ending, and what stands behind that request does not happen. -/
  settled : Bool

def filterVariable : Text := "RUST_LOG".toList

def replay (filter : Filter) (options : CommandLine.Options) (files : Text → File)
    (network : Http.Network) : Run :=
  match Settings.ofOptions options with
  | .error problem =>
    ⟨.aborted ⟨"Invalid configuration".toList, problem.failure⟩, filter, [], [], true⟩
  | .ok settings =>
    let report := Replay.runSettings settings (files settings.logPath) network
    let ending := match report.result with
      | .ok summary => .finished summary
      | .error cause =>
        .aborted ⟨"Rollover replay of ".toList ++ settings.logPath ++ " aborted".toList, cause⟩
    ⟨ending, filter, report.trace, report.memory.reverse,
      settings.client.allSettled network report.memory⟩

/-- The program. The filter of events is read before the arguments are. -/
def run (args : List Text) (env : CommandLine.Environment) (files : Text → File)
    (network : Http.Network) : Run :=
  match Filter.ofVariable? (env.lookup filterVariable) with
  | none => ⟨.unfiltered, ⟨[]⟩, [], [], true⟩
  | some filter =>
    match CommandLine.parse args env with
    | .error error => ⟨.usage error, filter, [], [], true⟩
    | .ok (.notice notice) => ⟨.notice notice, filter, [], [], true⟩
    | .ok (.run options) => replay filter options files network

/-- What the program comes to, unless it waits forever. -/
def Run.ending? (r : Run) : Option Ending := if r.settled then some r.ending else none

def Run.exitCode? (r : Run) : Option Nat := r.ending?.map Ending.exitCode

def help : Text :=
  "Replay failed PO line updates recorded in a rollover log\n\nUsage: ".toList ++ name ++
    " [OPTIONS]\n\nOptions:".toList ++
    (CommandLine.Opt.all.flatMap fun o =>
      "\n      ".toList ++ o.shown ++ "  [env: ".toList ++ o.envName ++ "=]".toList) ++
    "\n  -h, --help\n  -V, --version\n".toList

def Run.output (r : Run) : Text :=
  match r.ending with
  | .notice .help => help
  | .notice .version => name ++ ' ' :: version ++ ['\n']
  | _ => []

def Run.shownEvents (r : Run) : List Event := r.trace.events.filter r.filter.shows

def Run.complaint (r : Run) : Text :=
  match r.ending with
  | .usage error =>
    "error: ".toList ++ error.message ++ "\n\nFor more information, try '--help'.\n".toList
  | .aborted abort => abort.report ++ ['\n']
  | _ => []

end Program
end OrderReplay

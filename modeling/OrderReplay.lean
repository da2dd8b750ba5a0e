import OrderReplay.Main
import OrderReplay.Okapi.Rehearsal
import OrderReplay.Proofs.Except
import OrderReplay.Proofs.Log.Lines
import OrderReplay.Proofs.Replay.Step
import OrderReplay.Proofs.Replay.Calls
import OrderReplay.Proofs.Replay.Result
import OrderReplay.Proofs.Replay.Interrupted
import OrderReplay.Proofs.Replay.Progress
import OrderReplay.Proofs.Replay.Scanned
import OrderReplay.Proofs.Replay.Refused
import OrderReplay.Proofs.Replay.Record
import OrderReplay.Proofs.Replay.Counts
import OrderReplay.Proofs.Replay.Audit
import OrderReplay.Proofs.Text.Octets
import OrderReplay.Proofs.Text.Pieces
import OrderReplay.Proofs.Http.Percent
import OrderReplay.Proofs.Http.Path
import OrderReplay.Proofs.Http.Url
import OrderReplay.Proofs.Okapi.Resource
import OrderReplay.Proofs.Okapi.Update
import OrderReplay.Proofs.Json.Quotes
import OrderReplay.Proofs.Payload.Untouched
import OrderReplay.Proofs.FailureLine.Doubled
import OrderReplay.Proofs.Json.Sound
import OrderReplay.Proofs.Json.Tokens
import OrderReplay.Proofs.Json.Written
import OrderReplay.Proofs.FailureLine.RoundTrip
import OrderReplay.Proofs.FailureLine.Altered
import OrderReplay.Proofs.Json.Grammar
import OrderReplay.Proofs.Json.Lexemes
import OrderReplay.Proofs.Json.Parts
import OrderReplay.Proofs.Json.Accepted
import OrderReplay.Proofs.Binary64.Shortest
import OrderReplay.Proofs.Binary64.Rounding
import OrderReplay.Proofs.Json.Digits
import OrderReplay.Proofs.Json.Printed
import OrderReplay.Proofs.Json.Exact
import OrderReplay.Proofs.Json.Carried
import OrderReplay.Proofs.Json.Prefixes
import OrderReplay.Proofs.Json.Unambiguous
import OrderReplay.Proofs.FailureLine.Fidelity
import OrderReplay.Proofs.Log.Runs
import OrderReplay.Proofs.Text.Decoded
import OrderReplay.Proofs.FailureLine.Undecodable
import OrderReplay.Proofs.Okapi.Secrets
import OrderReplay.Proofs.Replay.Lockstep
import OrderReplay.Proofs.Replay.Secrets
import OrderReplay.Proofs.CommandLine.Notice
import OrderReplay.Proofs.Replay.Ending
import OrderReplay.Proofs.Program.Ending
import OrderReplay.Proofs.Settings.BaseUrl
import OrderReplay.Proofs.Http.Head
import OrderReplay.Proofs.Okapi.Verdict
import OrderReplay.Proofs.Replay.Verdict
import OrderReplay.Proofs.FailureLine.Identity
import OrderReplay.Proofs.Json.Spelled
import OrderReplay.Proofs.Json.Hollow
import OrderReplay.Proofs.FailureLine.DoubledCut
import OrderReplay.Proofs.Json.Alike
import OrderReplay.Proofs.FailureLine.Equality
import OrderReplay.Proofs.CommandLine.Delivery
import OrderReplay.Proofs.Okapi.Token
import OrderReplay.Proofs.Replay.Token
import OrderReplay.Proofs.Log.Decoded
import OrderReplay.Proofs.Okapi.Credentials
import OrderReplay.Proofs.Payload.Pairs

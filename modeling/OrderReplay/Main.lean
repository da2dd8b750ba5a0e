import OrderReplay.Program

/-! The command. No network is linked into it: every request finds that nobody
listens. -/
open OrderReplay

def readEnvironment : IO CommandLine.Environment := do
  let names := Program.filterVariable :: CommandLine.Opt.all.map CommandLine.Opt.envName
  names.filterMapM fun name => do
    let value ← IO.getEnv (String.ofList name)
    pure (value.map fun value => (name, value.toList))

def openFile (path : Text) : IO File := do
  try
    let octets ← IO.FS.readBinFile (String.ofList path)
    pure (.regular octets.toList)
  catch
    | .inappropriateType _ 20 _ => pure .beyond
    | .inappropriateType .. => pure .directory
    | .noFileOrDirectory .. => pure .missing
    | .permissionDenied .. => pure (.refused "Permission denied (os error 13)".toList)
    | other => pure (.refused (toString other).toList)

def main (args : List String) : IO UInt32 := do
  let words := args.map String.toList
  let env ← readEnvironment
  let path := match CommandLine.parse words env with
    | .ok (.run options) => options.orderLogs
    | _ => []
  let file ← openFile path
  let run := Program.run words env (fun _ => file) Http.nobody
  IO.print (String.ofList run.output)
  for event in run.shownEvents do
    IO.eprintln (String.ofList event.shown)
  IO.eprint (String.ofList run.complaint)
  pure (UInt32.ofNat run.ending.exitCode)

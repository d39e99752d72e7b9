import CandleRelay.CommandLine
import CandleRelay.Wiring

/-!
# The program

Gathers what the command line's rules need from the file system and the environment, and prints what
they answer. There is no network here: catalog and bus cannot be reached and no address can be
bound, so every run of a role ends with the failure that this is.
-/

namespace CandleRelay

/-- What a network that is not there answers. -/
def noNetwork : String := "Network is unreachable (os error 101)"

/-- What is found at the place of the settings. -/
def findSettings (path : String) : IO Config.Source := do
  try
    return .file (← IO.FS.readBinFile path).toList
  catch
    | .noFileOrDirectory .. => return .missing
    | .inappropriateType .. => return .unreadable Config.directoryReason
    | e => return .unreadable (toString e)

/-- Makes the directory of the log, if the settings name one. -/
def prepareLog (source : Config.Source) : IO (Except String Unit) := do
  match Config.load source with
  | .ok { logging := { directory := some dir, .. }, .. } =>
    try
      IO.FS.createDirAll dir
      return .ok ()
    catch e => return .error (toString e)
  | _ => return .ok ()

/-- The site of a process without a network. -/
def offline (source : Config.Source) (logReady : Except String Unit) : CommandLine.Site where
  settings := fun _ => source
  makeDirectory := fun _ => logReady
  bind := fun _ => .error noNetwork
  reachBus := fun _ => .error noNetwork
  work := fun c => (Worker.run c.plan (.offline noNetwork)).1
  serve := fun _ => .ok ()

end CandleRelay

open CandleRelay in
/-- Runs the program. -/
def main (args : List String) : IO UInt32 := do
  let usual := (← IO.getEnv "CONFIG_PATH").getD "config.toml"
  let path :=
    match CommandLine.request args with
    | .start _ settings => settings.getD usual
    | _ => usual
  let source ← findSettings path
  let output := CommandLine.run (offline source (← prepareLog source)) args
  IO.print output.stdout
  IO.eprint output.stderr
  return output.code

import TelemetrySidecar.CommandLine

/-
  The command on this machine

  The variables and files are those of the machine. There is no transport: to the
  run, no host can be reached.
-/

namespace TelemetrySidecar.Machine

/-- The variables of this process. -/
def environment : IO Environment := do
  let octets ← IO.FS.readBinFile "/proc/self/environ"
  let entries := octets.toList.splitOn 0
  return ⟨entries.filterMap fun entry =>
    match entry.span (· != 61) with
    | (name, _ :: value) => some (String.ofList (Text.decodeLossy name), value)
    | _ => none⟩

/-- The file at a path, if it can be read. -/
def fileAt (path : String) : IO (List (String × List UInt8)) := do
  try
    let octets ← IO.FS.readBinFile path
    return [(path, octets.toList)]
  catch _ => return []

/-- The most steps of a run. -/
def maxSteps : Nat := 1000000

/-- The command, with what it leaves behind. -/
def run : IO CommandLine.Exit := do
  let env ← environment
  let own : Files := { named := ← fileAt CommandLine.settingsPath }
  let sources := match Settings.load own CommandLine.settingsPath env with
    | .ok settings => CommandLine.sourceFiles settings
    | .error _ => []
  let files : Files := { named := own.named ++ (← sources.mapM fileAt).flatten }
  let out : ExtensionRun.Outside := { ports := fun _ => .error .unavailable }
  return (CommandLine.run ⟨env, files, Host.unreachable⟩ out maxSteps).1.getD { code := 1 }

end TelemetrySidecar.Machine

def main : IO UInt32 := do
  let exit ← TelemetrySidecar.Machine.run
  IO.eprint exit.complaint
  return exit.code

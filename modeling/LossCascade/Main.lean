import LossCascade.CommandLine
import LossCascade.Identifier
import LossCascade.Journal.Filter

/-!
# The program

The program fetches what a run needs from the world, works the run out, and writes its output: the
report to standard output, the journal and what there is to complain about to standard error.
-/

namespace LossCascade

/-- The number of a fault of the system, which may come with either sign. -/
def faultNumber (code : UInt32) : Nat :=
  code.toInt32.toInt.natAbs

/-- What is found at a path of the file system; workbooks are not unpacked. -/
def readEntry (path : String) : IO (Except PathFault Entry) := do
  match ← (IO.FS.readBinFile path).toBaseIO with
  | .ok content => return .ok (.bytes content.toList)
  | .error (.inappropriateType _ code _) =>
    return if faultNumber code == 20 then .error .behindFile else .ok .directory
  | .error (.invalidArgument _ code _) =>
    return .error (if faultNumber code == 36 then .tooLong else .missing)
  | .error _ => return .error .missing

/-- The values of the environment variables that a run may look at. -/
def readEnvironment : IO (String → Option String) := do
  let names :=
    ["OEE_LOSS_CONFIG", "RUST_LOG", "OEE_LOSS_LOG_FORMAT", "XDG_CONFIG_HOME", "HOME"]
  let values ← names.mapM fun name => return (name, ← IO.getEnv name)
  return fun name => (values.lookup name).join

/-- The files that a run may look at. -/
def readFiles (i : CommandLine.Invocation) : IO Files := do
  match CommandLine.readOrder i with
  | .error _ => return { entry := fun _ => .error .missing }
  | .ok order =>
    let paths := [order.availabilityPath, order.productionPath, order.configPath]
    let entries ← paths.mapM fun path => return (path, ← readEntry path)
    return { entry := fun path => (entries.lookup path).getD (.error .missing) }

end LossCascade

open LossCascade in
/-- Runs the program with the given arguments. -/
def main (arguments : List String) : IO UInt32 := do
  let environment ← readEnvironment
  let reportId := Identifier.ofBytes (← IO.getRandomBytes 16).toList
  let asked : CommandLine.Invocation :=
    { arguments, environment, files := { entry := fun _ => .error .missing }, reportId }
  let invocation := { asked with files := ← readFiles asked }
  for line in CommandLine.journal invocation do
    IO.eprintln line
  let output := CommandLine.output invocation
  IO.print output.standardOutput
  if let some complaint := output.complaint then
    IO.eprintln complaint.text
  return output.exitCode.toUInt32

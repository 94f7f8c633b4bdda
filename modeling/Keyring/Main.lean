import Keyring.CommandLine.Run
import Keyring.Store.Archive
import Std.Time.DateTime.Timestamp

/-!
# The program

Runs the program on the files, the environment and the clocks of the machine.
-/

namespace Keyring

/-- The result of an action, if it succeeds. -/
def attempt {α : Type} (x : IO α) : IO (Option α) := do
  try
    return some (← x)
  catch _ =>
    return none

/-- Whether there is a file or a directory. -/
def isPresent (path : String) : IO Bool := do
  return (← attempt (IO.FS.realPath path)).isSome

/-- The requests to the files of the machine.  A database replaces the file that it was opened
from only when it is written in full. -/
def machineFiles : FileAccess IO where
  isPresent path := isPresent path
  readText path := attempt (IO.FS.readFile path)
  writeText path content := do
    return (← attempt (IO.FS.writeFile path content)).isSome
  makeDirectories path := do
    let isMade := (← attempt (IO.FS.createDirAll path)).isSome
    match ← attempt (IO.FS.realPath path) with
    | some directory => return isMade && (← directory.isDir)
    | none => return false
  openDatabase path use := do
    let unwritten : Option (Option Database) := if use.mayBeWritten then some none else none
    if ← isPresent path then
      return (← attempt (IO.FS.readFile path)).bind fun text =>
        if isUnwritten text then unwritten else (Database.ofText? text).map some
    else if use.mayBeMade then
      return (← attempt (IO.FS.writeFile path "")).bind fun _ => unwritten
    else
      return none
  saveDatabase path _ d := do
    let fresh := path ++ ".new"
    IO.FS.writeFile fresh d.text
    IO.FS.rename fresh path

/-- The environment, randomness and clocks of the machine. -/
def machineSurroundings : IO Surroundings := do
  let values ← Surroundings.variableNames.mapM fun name => return (name, ← IO.getEnv name)
  let entropy ← IO.getRandomBytes 64
  let nanos := (← Std.Time.Timestamp.now).toNanosecondsSinceUnixEpoch.toInt
  let wall := (Instant.ofParts? (nanos / 1000000000) (nanos % 1000000000).toNat).getD .epoch
  return {
    environment := fun name => (values.lookup name).join
    random := .ofEntropy entropy.toList
    clock := ⟨wall, ← IO.monoNanosNow⟩ }

end Keyring

/-- Run the program: print its output, or its failure, and return its exit code. -/
def main (arguments : List String) : IO UInt32 := do
  let outcome ← Keyring.Program.run Keyring.machineFiles (← Keyring.machineSurroundings) arguments
  IO.print outcome.printed
  match outcome.error? with
  | some e => IO.eprintln s!"Error: {e.message}"
  | none => if outcome.exitCode = 2 then IO.eprintln Keyring.Program.usage
  return outcome.exitCode

import RemoteExec.CommandLine.Program
import RemoteExec.Session.Memory
/-!
The command line program. It reads what it was called with and prints how the run went; there is no
library to connect with here, so a run ends where a connection would begin.
-/
namespace RemoteExec.Main

def environmentNames : List String :=
  ["HOME", "USER", "USERNAME"] ++ CommandLine.options.filterMap CommandLine.OptionSpec.envName

def readEnvironment : IO Environment := do
  let found ← environmentNames.filterMapM fun name => do
    return (← IO.getEnv name).map fun value => (name, value)
  return ⟨found⟩

def freshNonce : IO String := do
  let bytes ← IO.getRandomBytes 16
  return String.ofList (bytes.toList.flatMap fun b => [Text.hexDigit (b.toNat / 16), Text.hexDigit (b.toNat % 16)])

def readFiles (names : List String) : IO FileSystem :=
  names.foldlM (fun fs (name : String) => do
    try
      let content ← IO.FS.readBinFile name
      return fs.install name (some content.toList)
    catch _ => return fs) FileSystem.empty

def writeBytes (stream : IO.FS.Stream) (b : Bytes) : IO Unit := do
  stream.write ⟨b.toArray⟩
  stream.flush

end RemoteExec.Main

open RemoteExec in
def main (arguments : List String) : IO UInt32 := do
  let env ← Main.readEnvironment
  let files ← Main.readFiles (arguments ++ env.bindings.map (·.2))
  let library := Memory.library "none" ⟨0, 0, 0⟩
  let outside : Outside Memory.State := ⟨Memory.State.initial Memory.Settings.harmless [], files, ⟨[], []⟩, []⟩
  let (printed, after) := CommandLine.runProgram library false env (← Main.freshNonce) arguments outside
  let told := after.log.filter (Event.atLeast .warn)
  Main.writeBytes (← IO.getStdout) printed.stdout
  Main.writeBytes (← IO.getStderr) (Bytes.ofString (String.join (told.map fun e => e.line ++ "\n")) ++ printed.stderr)
  return UInt32.ofNat printed.code

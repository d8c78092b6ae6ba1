import RemoteExec.Bytes
import RemoteExec.Failure
import RemoteExec.Files.FileSystem
import RemoteExec.Text.Utf8Fault

namespace RemoteExec.Scp

-- How a far end in state `π` answers bytes, and a bound on the number of lines it ever sends.
structure FarEnd (π : Type) where
  answer : π → Bytes → Bytes × π
  bound : Nat

structure Wire (π : Type) where
  incoming : Bytes
  peer : π

abbrev Talk (π : Type) := ExceptT IoError (StateM (Wire π × FileSystem))

namespace Talk

variable {π : Type}

def write (far : FarEnd π) (b : Bytes) : Talk π Unit := do
  let (w, fs) ← get
  let (more, peer) := far.answer w.peer b
  set (Wire.mk (w.incoming ++ more) peer, fs)

def take (n : Nat) : Talk π Bytes := do
  let (w, fs) ← get
  set ({ w with incoming := w.incoming.drop n }, fs)
  return w.incoming.take n

def byte : Talk π UInt8 := do
  let (w, _) ← get
  match w.incoming with
  | [] => throw .earlyEof
  | b :: rest => do
    modify fun s => ({ s.1 with incoming := rest }, s.2)
    return b

def lineBytes : Talk π Bytes := do
  let (w, fs) ← get
  let line := w.incoming.takeWhile (· != 10)
  let rest := w.incoming.dropWhile (· != 10)
  set ({ w with incoming := rest.tail }, fs)
  return line ++ rest.take 1

def line (start : String) : Talk π String := do
  let bytes := Bytes.ofString start ++ (← lineBytes)
  match bytes.fault?, bytes.toString? with
  | some f, _ => throw ⟨.invalidData, f.message⟩
  | none, some s => return s
  | none, none => throw ⟨.invalidData, ""⟩

def files : Talk π FileSystem := do return (← get).2

def setFiles (fs : FileSystem) : Talk π Unit := modify fun s => (s.1, fs)

def ofExcept (e : Except IoError α) : Talk π α :=
  match e with
  | .ok a => pure a
  | .error e => throw e

end Talk

def deaf (incoming : Bytes) : FarEnd Bytes × Wire Bytes :=
  (⟨fun sent b => ([], sent ++ b), incoming.length⟩, ⟨incoming, []⟩)

end RemoteExec.Scp

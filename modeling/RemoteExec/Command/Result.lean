import RemoteExec.Bytes
import RemoteExec.Json.Value

namespace RemoteExec

structure CommandResult where
  returnCode : Int
  stdout : Bytes
  stderr : Bytes
deriving DecidableEq, Inhabited

namespace CommandResult

def success (r : CommandResult) : Bool := r.returnCode == 0

def byteList (b : Bytes) : Json := .arr (b.map fun x => .num (.natural x.toNat))

def intJson (n : Int) : Json := .num (if 0 ≤ n then .natural n.toNat else .negative n.natAbs)

def json (r : CommandResult) : Json :=
  .obj [("return_code", intJson r.returnCode), ("stderr", byteList r.stderr), ("stdout", byteList r.stdout)]

end CommandResult

structure ChannelExit where
  exitStatus : Option Nat
  stdout : Bytes
  stderr : Bytes
deriving DecidableEq, Inhabited

-- An exit status as a return code: `-1` for none, and never above the largest 32-bit number.
def returnCode (status : Option Nat) : Int :=
  match status with
  | none => -1
  | some n => if n ≤ 2147483647 then n else 2147483647

end RemoteExec

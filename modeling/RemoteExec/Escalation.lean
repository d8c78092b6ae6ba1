import RemoteExec.Bytes

namespace RemoteExec

structure Escalation where
  expectsPrompt : Bool
  isSuccess : Bytes → Bool
  isPrompt : Bytes → Bool
  secret : Option Bytes
  user : String

inductive Progress where
  | waiting
  | success
  | passwordPrompt
deriving DecidableEq

namespace Bytes

def linesFrom (line : Bytes) : Bytes → List Bytes
  | [] => if line.isEmpty then [] else [line.reverse]
  | 13 :: 10 :: rest => (10 :: 13 :: line).reverse :: linesFrom [] rest
  | b :: rest =>
    if b = 10 ∨ b = 13 then (b :: line).reverse :: linesFrom [] rest else linesFrom (b :: line) rest

-- Lines with their ends: LF, CR LF or CR. The last line may have none.
def lines (b : Bytes) : List Bytes := linesFrom [] b

end Bytes

namespace Escalation

def scanLines (e : Escalation) : List Bytes → Progress
  | [] => .waiting
  | line :: rest =>
    if e.isSuccess line then .success
    else if e.isPrompt line then .passwordPrompt
    else e.scanLines rest

def scan (e : Escalation) (output : Bytes) : Progress := e.scanLines output.lines

end Escalation
end RemoteExec

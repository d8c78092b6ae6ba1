import RemoteExec.Scp.Header
import RemoteExec.Scp.Wire
import RemoteExec.Text.Inspect

namespace RemoteExec.Scp

variable {π : Type}

def refusal : Talk π α := do
  let message ← Talk.line ""
  throw (.ofText message.trimBlanksRight)

def hexByte (b : UInt8) : String :=
  "0x" ++ String.ofList [Text.hexDigit (b.toNat / 16), Text.hexDigit (b.toNat % 16)]

def acknowledgement : Talk π Unit := do
  let b ← Talk.byte
  if b = 0 then return
  else if b = 1 ∨ b = 2 then refusal
  else throw (.ofText ("unexpected SCP response byte " ++ hexByte b))

def confirm (far : FarEnd π) : Talk π Unit := Talk.write far [0]

def send (far : FarEnd π) (source remote : String) : Talk π Unit := do
  let fs ← Talk.files
  let (mode, size) ← Talk.ofExcept (fs.stat source)
  acknowledgement
  Talk.write far (Bytes.ofString (headerLine mode size remote))
  acknowledgement
  let content ← Talk.ofExcept (fs.read source)
  Talk.write far content
  confirm far
  acknowledgement

def header (far : FarEnd π) : Nat → Talk π String
  | 0 => throw .earlyEof
  | fuel + 1 => do
    let b ← Talk.byte
    if b = 1 ∨ b = 2 then refusal
    else if b = 84 then do
      let _ ← Talk.line ""
      confirm far
      header far fuel
    else Talk.line (String.ofList [Char.ofNat b.toNat])

def receive (far : FarEnd π) (target : String) : Talk π Unit := do
  confirm far
  let size ← Talk.ofExcept (headerSize (← header far (far.bound + 1)))
  confirm far
  let fs ← Talk.ofExcept ((← Talk.files).write target [])
  Talk.setFiles fs
  let content ← Talk.take size
  let fs ← Talk.ofExcept (fs.write target content)
  Talk.setFiles fs
  if content.length ≠ size then
    throw ⟨.unexpectedEof,
      "SCP stream ended after " ++ toString content.length ++ " of " ++ toString size ++ " bytes"⟩
  acknowledgement
  confirm far

end RemoteExec.Scp

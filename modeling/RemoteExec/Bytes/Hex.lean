import RemoteExec.Bytes
import RemoteExec.Text.Inspect

namespace RemoteExec.Bytes

def hexByte (b : UInt8) : List Char := [Text.hexDigit (b.toNat / 16), Text.hexDigit (b.toNat % 16)]

def hex (b : Bytes) : String := String.ofList (b.flatMap hexByte)

def hexValue (c : Char) : Nat := if c.isDigit then c.toNat - 48 else c.toLower.toNat - 87

def ofHexPairs : List Char → Bytes
  | a :: b :: rest => UInt8.ofNat (hexValue a * 16 + hexValue b) :: ofHexPairs rest
  | _ => []

def ofHex (s : String) : Bytes := ofHexPairs s.toList

end RemoteExec.Bytes

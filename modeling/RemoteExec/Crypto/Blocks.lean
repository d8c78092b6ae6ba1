import RemoteExec.Bytes

namespace RemoteExec.Bytes

def bigEndian (count n : Nat) : Bytes := (List.range count).map fun i => UInt8.ofNat (n / Nat.pow 256 (count - 1 - i))

def toNat (b : Bytes) : Nat := b.foldl (fun n x => n * 256 + x.toNat) 0

def chunks (size : Nat) : Nat → Bytes → List Bytes
  | 0, _ => []
  | n + 1, b => if b.isEmpty then [] else b.take size :: chunks size n (b.drop size)

-- The message with a one bit, zeros, and its length at the end of a block of `block` bytes.
def padded (block lengthBytes : Nat) (message : Bytes) : Bytes :=
  let used := message.length + 1 + lengthBytes
  message ++ 0x80 :: List.replicate ((block - used % block) % block) 0 ++ bigEndian lengthBytes (message.length * 8)

end RemoteExec.Bytes

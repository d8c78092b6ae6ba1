import RemoteExec.Crypto.Blowfish
import RemoteExec.Crypto.Sha512

namespace RemoteExec.KeyStretch

def wordArray (b : Bytes) : Array UInt32 :=
  ((Bytes.chunks 4 b.length b).map fun w => UInt32.ofNat w.toNat).toArray

def expandTimes (salt pass : Array UInt32) : Nat → Blowfish.State → Blowfish.State
  | 0, s => s
  | n + 1, s =>
    expandTimes salt pass n (Blowfish.expand Blowfish.noSalt pass (Blowfish.expand Blowfish.noSalt salt s))

def encipherTimes (s : Blowfish.State) : Nat → UInt32 × UInt32 → UInt32 × UInt32
  | 0, b => b
  | n + 1, (l, r) => encipherTimes s n (Blowfish.encipher s.keys s.boxes l r)

def littleEndian (w : UInt32) : Bytes := (Bytes.bigEndian 4 w.toNat).reverse

def hash (pass salt : Bytes) : Bytes :=
  let pass := wordArray pass
  let salt := wordArray salt
  let s := expandTimes salt pass 64 (Blowfish.expand salt pass Blowfish.initial)
  (Bytes.chunks 8 4 (Bytes.ofString "OxychromaticBlowfishSwatDynamite")).flatMap fun block =>
    let n := block.toNat
    let (l, r) := encipherTimes s 64 (UInt32.ofNat (n / Nat.pow 2 32), UInt32.ofNat (n % Nat.pow 2 32))
    littleEndian l ++ littleEndian r

def xor (a b : Bytes) : Bytes := List.zipWith (· ^^^ ·) a b

def chain (pass : Bytes) : Nat → Bytes → Bytes → Bytes
  | 0, _, out => out
  | n + 1, last, out =>
    let next := hash pass (Sha512.digest last)
    chain pass n next (xor out next)

def block (pass salt : Bytes) (rounds number : Nat) : Bytes :=
  let first := hash pass (Sha512.digest (salt ++ Bytes.bigEndian 4 number))
  chain pass (rounds - 1) first first

def derive (passphrase salt : Bytes) (rounds size : Nat) : Bytes :=
  let pass := Sha512.digest passphrase
  let count := (size + 31) / 32
  let blocks := (List.range count).map fun i => (block pass salt rounds (i + 1)).toArray
  (List.range size).map fun i => ((blocks[i % count]?).getD #[])[i / count]!

end RemoteExec.KeyStretch

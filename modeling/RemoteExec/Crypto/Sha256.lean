import RemoteExec.Crypto.Blocks
import RemoteExec.Crypto.Roots

namespace RemoteExec.Sha256

def initial : Array UInt32 := ((Roots.primes 8).map fun p => UInt32.ofNat (Roots.fraction 2 32 p)).toArray

def roundConstants : Array UInt32 := ((Roots.primes 64).map fun p => UInt32.ofNat (Roots.fraction 3 32 p)).toArray

def rotr (x n : UInt32) : UInt32 := (x >>> n) ||| (x <<< (32 - n))

def schedule (block : Bytes) : Array UInt32 :=
  let start := ((Bytes.chunks 4 16 block).map fun w => UInt32.ofNat w.toNat).toArray
  (List.range 48).foldl (fun w i =>
    let a := w[i + 1]!
    let b := w[i + 14]!
    let s0 := rotr a 7 ^^^ rotr a 18 ^^^ (a >>> 3)
    let s1 := rotr b 17 ^^^ rotr b 19 ^^^ (b >>> 10)
    w.push (w[i]! + s0 + w[i + 9]! + s1)) start

structure Words where
  a : UInt32
  b : UInt32
  c : UInt32
  d : UInt32
  e : UInt32
  f : UInt32
  g : UInt32
  h : UInt32

def Words.ofArray (s : Array UInt32) : Words := ⟨s[0]!, s[1]!, s[2]!, s[3]!, s[4]!, s[5]!, s[6]!, s[7]!⟩

def Words.toArray (s : Words) : Array UInt32 := #[s.a, s.b, s.c, s.d, s.e, s.f, s.g, s.h]

def step (s : Words) (k w : UInt32) : Words :=
  let s1 := rotr s.e 6 ^^^ rotr s.e 11 ^^^ rotr s.e 25
  let ch := (s.e &&& s.f) ^^^ (~~~ s.e &&& s.g)
  let t1 := s.h + s1 + ch + k + w
  let s0 := rotr s.a 2 ^^^ rotr s.a 13 ^^^ rotr s.a 22
  let maj := (s.a &&& s.b) ^^^ (s.a &&& s.c) ^^^ (s.b &&& s.c)
  ⟨t1 + s0 + maj, s.a, s.b, s.c, s.d + t1, s.e, s.f, s.g⟩

def absorb (state : Array UInt32) (block : Bytes) : Array UInt32 :=
  let w := schedule block
  let final := (List.range 64).foldl (fun s i => step s roundConstants[i]! w[i]!) (Words.ofArray state)
  (state.zip final.toArray).map fun p => p.1 + p.2

def digest (message : Bytes) : Bytes :=
  let p := Bytes.padded 64 8 message
  ((Bytes.chunks 64 (p.length / 64) p).foldl absorb initial).toList.flatMap fun w => Bytes.bigEndian 4 w.toNat

end RemoteExec.Sha256

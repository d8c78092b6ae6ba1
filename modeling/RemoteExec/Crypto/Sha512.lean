import RemoteExec.Crypto.Blocks
import RemoteExec.Crypto.Roots

namespace RemoteExec.Sha512

def initial : Array UInt64 := ((Roots.primes 8).map fun p => UInt64.ofNat (Roots.fraction 2 64 p)).toArray

def roundConstants : Array UInt64 := ((Roots.primes 80).map fun p => UInt64.ofNat (Roots.fraction 3 64 p)).toArray

def rotr (x n : UInt64) : UInt64 := (x >>> n) ||| (x <<< (64 - n))

def schedule (block : Bytes) : Array UInt64 :=
  let start := ((Bytes.chunks 8 16 block).map fun w => UInt64.ofNat w.toNat).toArray
  (List.range 64).foldl (fun w i =>
    let a := w[i + 1]!
    let b := w[i + 14]!
    let s0 := rotr a 1 ^^^ rotr a 8 ^^^ (a >>> 7)
    let s1 := rotr b 19 ^^^ rotr b 61 ^^^ (b >>> 6)
    w.push (w[i]! + s0 + w[i + 9]! + s1)) start

structure Words where
  a : UInt64
  b : UInt64
  c : UInt64
  d : UInt64
  e : UInt64
  f : UInt64
  g : UInt64
  h : UInt64

def Words.ofArray (s : Array UInt64) : Words := ⟨s[0]!, s[1]!, s[2]!, s[3]!, s[4]!, s[5]!, s[6]!, s[7]!⟩

def Words.toArray (s : Words) : Array UInt64 := #[s.a, s.b, s.c, s.d, s.e, s.f, s.g, s.h]

def step (s : Words) (k w : UInt64) : Words :=
  let s1 := rotr s.e 14 ^^^ rotr s.e 18 ^^^ rotr s.e 41
  let ch := (s.e &&& s.f) ^^^ (~~~ s.e &&& s.g)
  let t1 := s.h + s1 + ch + k + w
  let s0 := rotr s.a 28 ^^^ rotr s.a 34 ^^^ rotr s.a 39
  let maj := (s.a &&& s.b) ^^^ (s.a &&& s.c) ^^^ (s.b &&& s.c)
  ⟨t1 + s0 + maj, s.a, s.b, s.c, s.d + t1, s.e, s.f, s.g⟩

def absorb (state : Array UInt64) (block : Bytes) : Array UInt64 :=
  let w := schedule block
  let final := (List.range 80).foldl (fun s i => step s roundConstants[i]! w[i]!) (Words.ofArray state)
  (state.zip final.toArray).map fun p => p.1 + p.2

def digest (message : Bytes) : Bytes :=
  let p := Bytes.padded 128 16 message
  ((Bytes.chunks 128 (p.length / 128) p).foldl absorb initial).toList.flatMap fun w => Bytes.bigEndian 8 w.toNat

end RemoteExec.Sha512

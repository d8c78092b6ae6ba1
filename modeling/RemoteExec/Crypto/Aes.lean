import RemoteExec.Crypto.Blocks

namespace RemoteExec.Aes

def double (a : UInt8) : UInt8 := if a &&& 0x80 = 0 then a <<< 1 else (a <<< 1) ^^^ 0x1B

def times (a : UInt8) (n : Nat) : UInt8 :=
  ((List.range 8).foldl (fun (acc : UInt8 × UInt8) i =>
    (if n >>> i % 2 = 1 then acc.1 ^^^ acc.2 else acc.1, double acc.2)) (0, a)).1

def inverse (a : UInt8) : UInt8 :=
  ((List.range 256).map UInt8.ofNat).find? (fun b => times a b.toNat = 1) |>.getD 0

def rotl (a n : UInt8) : UInt8 := (a <<< n) ||| (a >>> (8 - n))

def substitute (a : UInt8) : UInt8 :=
  let b := inverse a
  b ^^^ rotl b 1 ^^^ rotl b 2 ^^^ rotl b 3 ^^^ rotl b 4 ^^^ 0x63

def box : Array UInt8 := ((List.range 256).map fun n => substitute (UInt8.ofNat n)).toArray

def sub (b : Bytes) : Bytes := b.map fun x => box[x.toNat]!

def xor (a b : Bytes) : Bytes := List.zipWith (· ^^^ ·) a b

def nextWord (w : Array Bytes) (i : Nat) (round : UInt8) : Bytes :=
  let last := w[i - 1]!
  let turned := if i % 8 = 0 then xor (sub (last.drop 1 ++ last.take 1)) [round, 0, 0, 0]
    else if i % 8 = 4 then sub last
    else last
  xor w[i - 8]! turned

def roundKeys (key : Bytes) : List Bytes :=
  let (w, _) := (List.range 52).foldl (fun (acc : Array Bytes × UInt8) k =>
    let i := k + 8
    (acc.1.push (nextWord acc.1 i acc.2), if i % 8 = 0 then double acc.2 else acc.2))
    ((Bytes.chunks 4 8 key).toArray, 1)
  Bytes.chunks 16 15 (w.toList.flatten)

-- Byte `4 c + r` of the state comes from column `c + r`.
def shiftRows (s : Bytes) : Bytes :=
  let a := s.toArray
  (List.range 16).map fun i => a[(i + 4 * (i % 4)) % 16]!

def mixColumn (c : Bytes) : Bytes :=
  let a := c.toArray
  (List.range 4).map fun i =>
    double a[i]! ^^^ (double a[(i + 1) % 4]! ^^^ a[(i + 1) % 4]!) ^^^ a[(i + 2) % 4]! ^^^ a[(i + 3) % 4]!

def mixColumns (s : Bytes) : Bytes := (Bytes.chunks 4 4 s).flatMap mixColumn

def encryptBlock (keys : List Bytes) (block : Bytes) : Bytes :=
  match keys with
  | [] => block
  | first :: rest =>
    let s := rest.dropLast.foldl (fun s k => xor (mixColumns (shiftRows (sub s))) k) (xor block first)
    xor (shiftRows (sub s)) (rest.getLast?.getD [])

def counterMode (key start data : Bytes) : Bytes :=
  let keys := roundKeys key
  let n := start.toNat
  ((Bytes.chunks 16 data.length data).zipIdx.map fun c =>
    xor c.1 (encryptBlock keys (Bytes.bigEndian 16 ((n + c.2) % Nat.pow 2 128)))).flatten

end RemoteExec.Aes

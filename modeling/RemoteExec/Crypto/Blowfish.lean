import RemoteExec.Crypto.Blocks

namespace RemoteExec.Blowfish

def arctanParts (x : Nat) : Nat → Nat → Nat → Nat × Nat → Nat × Nat
  | 0, _, _, parts => parts
  | fuel + 1, power, odd, (plus, minus) =>
    if power = 0 then (plus, minus)
    else
      let term := power / odd
      arctanParts x fuel (power / (x * x)) (odd + 2) (if odd % 4 = 1 then (plus + term, minus) else (plus, minus + term))

def arctan (unit x : Nat) : Nat :=
  let (plus, minus) := arctanParts x unit.log2 (unit / x) 1 (0, 0)
  plus - minus

def piFraction (bits : Nat) : Nat :=
  let unit := Nat.pow 2 (bits + 64)
  (16 * arctan unit 5 - 4 * arctan unit 239) / Nat.pow 2 64 % Nat.pow 2 bits

structure State where
  keys : Array UInt32
  boxes : Array UInt32

def words (count bits : Nat) (n : Nat) : List UInt32 :=
  (List.range count).map fun i => UInt32.ofNat (n >>> (bits - 32 * (i + 1)) % Nat.pow 2 32)

def initial : State :=
  let all := words 1042 33344 (piFraction 33344)
  ⟨(all.take 18).toArray, (all.drop 18).toArray⟩

def mix (boxes : Array UInt32) (x : UInt32) : UInt32 :=
  let a := (x >>> 24).toNat
  let b := ((x >>> 16) &&& 0xFF).toNat
  let c := ((x >>> 8) &&& 0xFF).toNat
  let d := (x &&& 0xFF).toNat
  ((boxes[a]! + boxes[256 + b]!) ^^^ boxes[512 + c]!) + boxes[768 + d]!

-- Two of the sixteen rounds at a time, from round `16 - 2 · n`.
def rounds (keys boxes : Array UInt32) : Nat → UInt32 → UInt32 → UInt32 × UInt32
  | 0, l, r => (r ^^^ keys[17]!, l)
  | n + 1, l, r =>
    let i := 16 - 2 * (n + 1)
    let r := r ^^^ mix boxes l ^^^ keys[i + 1]!
    let l := l ^^^ mix boxes r ^^^ keys[i + 2]!
    rounds keys boxes n l r

def encipher (keys boxes : Array UInt32) (l r : UInt32) : UInt32 × UInt32 :=
  rounds keys boxes 8 (l ^^^ keys[0]!) r

structure Feed where
  l : UInt32
  r : UInt32
  turn : Nat

def Feed.next (salt : Array UInt32) (keys boxes : Array UInt32) (f : Feed) : Feed :=
  let i := f.turn % (salt.size / 2)
  let (l, r) := encipher keys boxes (f.l ^^^ salt[2 * i]!) (f.r ^^^ salt[2 * i + 1]!)
  ⟨l, r, f.turn + 1⟩

def refillKeys (salt boxes : Array UInt32) : Nat → Nat → Array UInt32 → Feed → Array UInt32 × Feed
  | 0, _, keys, f => (keys, f)
  | n + 1, i, keys, f =>
    let f := f.next salt keys boxes
    refillKeys salt boxes n (i + 2) ((keys.set! i f.l).set! (i + 1) f.r) f

def refillBoxes (salt keys : Array UInt32) : Nat → Nat → Array UInt32 → Feed → Array UInt32
  | 0, _, boxes, _ => boxes
  | n + 1, i, boxes, f =>
    let f := f.next salt keys boxes
    refillBoxes salt keys n (i + 2) ((boxes.set! i f.l).set! (i + 1) f.r) f

def expand (salt key : Array UInt32) (s : State) : State :=
  let keys := s.keys.mapIdx fun i k => k ^^^ key[i % key.size]!
  let (keys, f) := refillKeys salt s.boxes 9 0 keys ⟨0, 0, 0⟩
  ⟨keys, refillBoxes salt keys 512 0 s.boxes f⟩

def noSalt : Array UInt32 := #[0, 0]

end RemoteExec.Blowfish

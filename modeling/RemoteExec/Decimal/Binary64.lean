namespace RemoteExec.Decimal

inductive Binary64 where
  | nan
  | infinite (negative : Bool)
  | finite (negative : Bool) (significand : Nat) (exponent : Int)
deriving DecidableEq, Inhabited

namespace Binary64

def leastNormal : Nat := 4503599627370496

def zero (negative : Bool) : Binary64 := .finite negative 0 (-1074)

def scaled (num den : Nat) (q : Int) : Nat × Nat :=
  if 0 ≤ q then (num, den * Nat.pow 2 q.toNat) else (num * Nat.pow 2 (-q).toNat, den)

-- The whole number nearest to `num / den`; a half goes to the even one.
def nearest (num den : Nat) : Nat :=
  let m := num / den
  let twice := 2 * (num % den)
  if twice > den ∨ (twice = den ∧ m % 2 = 1) then m + 1 else m

def ofRatio (negative : Bool) (num den : Nat) : Binary64 :=
  if num = 0 then zero negative
  else
    let guess := max (-1074) ((num.log2 : Int) - (den.log2 : Int) - 53)
    let (n, d) := scaled num den guess
    let q := if n / d < 2 * leastNormal then guess else guess + 1
    let (n, d) := scaled num den q
    let m := nearest n d
    let (m, q) := if m = 2 * leastNormal then (leastNormal, q + 1) else (m, q)
    if q > 971 then .infinite negative else .finite negative m q

def ofNat (negative : Bool) (n : Nat) : Binary64 := ofRatio negative n 1

def ofDecimal (negative : Bool) (digits : Nat) (exponent : Int) : Binary64 :=
  let size := (Nat.toDigits 10 digits).length
  if digits = 0 then zero negative
  else if (size : Int) + exponent > 400 then .infinite negative
  else if (size : Int) + exponent < -400 then zero negative
  else if 0 ≤ exponent then ofRatio negative (digits * Nat.pow 10 exponent.toNat) 1
  else ofRatio negative digits (Nat.pow 10 (-exponent).toNat)

def ratio (m : Nat) (q : Int) : Nat × Nat :=
  if 0 ≤ q then (m * Nat.pow 2 q.toNat, 1) else (m, Nat.pow 2 (-q).toNat)

def isNegative : Binary64 → Bool
  | .nan => false
  | .infinite negative => negative
  | .finite negative _ _ => negative

def isZero : Binary64 → Bool
  | .finite _ 0 _ => true
  | _ => false

def isFinite : Binary64 → Bool
  | .finite _ _ _ => true
  | _ => false

def negate : Binary64 → Binary64
  | .nan => .nan
  | .infinite s => .infinite (!s)
  | .finite s m q => .finite (!s) m q

def mul : Binary64 → Binary64 → Binary64
  | .finite s m q, .finite t n r =>
    let (a, b) := ratio (m * n) (q + r)
    ofRatio (s != t) a b
  | _, _ => .nan

def div : Binary64 → Binary64 → Binary64
  | .finite s m q, .finite t n r =>
    let (a, b) := ratio m q
    let (c, d) := ratio n r
    ofRatio (s != t) (a * d) (b * c)
  | _, _ => .nan

end Binary64
end RemoteExec.Decimal

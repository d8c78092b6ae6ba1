import RemoteExec.Decimal.Binary64
/-!
The shortest decimal that reads back as a given double: on the grids of 1, 2, … 17 digits the two
neighbours of the value are tried, and the first grid with a hit wins.
-/
namespace RemoteExec.Decimal

structure Digits where
  digits : Nat
  exponent : Int
deriving DecidableEq

-- The reals that round to `m · 2^q`, all ends and the value itself times four, over one denominator.
structure Interval where
  low : Nat
  value : Nat
  high : Nat
  den : Nat
  closed : Bool

def interval (m : Nat) (q : Int) : Interval :=
  let below := if m = Binary64.leastNormal ∧ q > -1074 then 1 else 2
  let k := if 0 ≤ q then Nat.pow 2 q.toNat else 1
  let den := if 0 ≤ q then 4 else 4 * Nat.pow 2 (-q).toNat
  ⟨(4 * m - below) * k, 4 * m * k, (4 * m + 2) * k, den, m % 2 == 0⟩

def Interval.holds (i : Interval) (d : Nat) (e : Int) : Bool :=
  let x := d * (if 0 ≤ e then Nat.pow 10 e.toNat else 1) * i.den
  let scale := if 0 ≤ e then 1 else Nat.pow 10 (-e).toNat
  if i.closed then i.low * scale ≤ x && x ≤ i.high * scale
  else i.low * scale < x && x < i.high * scale

def Interval.hit? (i : Interval) (e : Int) : Option Nat :=
  let n := i.value * (if 0 ≤ e then 1 else Nat.pow 10 (-e).toNat)
  let d := i.den * (if 0 ≤ e then Nat.pow 10 e.toNat else 1)
  let down := n / d
  let near := if 2 * (n % d) < d then down else down + 1
  let far := if 2 * (n % d) < d then down + 1 else down
  if i.holds near e then some near else if i.holds far e then some far else none

def Interval.magnitude (i : Interval) : Int :=
  if i.den ≤ i.value then (Nat.toDigits 10 (i.value / i.den)).length
  else 1 - ((Nat.toDigits 10 ((i.den - 1) / i.value)).length : Int)

def stripZeros : Nat → Digits → Digits
  | 0, d => d
  | fuel + 1, d =>
    if d.digits ≠ 0 ∧ d.digits % 10 = 0 then stripZeros fuel ⟨d.digits / 10, d.exponent + 1⟩ else d

def shortest (m : Nat) (q : Int) : Digits :=
  if m = 0 then ⟨0, 0⟩
  else
    let i := interval m q
    let top := i.magnitude
    let found := (List.range 18).findSome? fun (k : Nat) =>
      let e := top - (k : Int) - 1
      (i.hit? e).bind fun d => if d = 0 then none else some (Digits.mk d e)
    stripZeros 20 (found.getD ⟨0, 0⟩)

end RemoteExec.Decimal

namespace RemoteExec.Roots

def isPrime (n : Nat) : Bool := 2 ≤ n && (List.range n).all fun d => d < 2 || n % d != 0

def primes (count : Nat) : List Nat := ((List.range 420).filter isPrime).take count

-- The greatest number from `r` whose `k`-th power is at most `n`, found from bit `bits` downwards.
def floorRoot (k n : Nat) : Nat → Nat → Nat
  | 0, r => if Nat.pow (r + 1) k ≤ n then r + 1 else r
  | bits + 1, r => floorRoot k n bits (if Nat.pow (r + Nat.pow 2 (bits + 1)) k ≤ n then r + Nat.pow 2 (bits + 1) else r)

def fraction (k width p : Nat) : Nat := floorRoot k (p * Nat.pow 2 (k * width)) (width + 6) 0 % Nat.pow 2 width

end RemoteExec.Roots

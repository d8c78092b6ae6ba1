import RemoteExec.Bytes

namespace RemoteExec.Bytes

-- The first place where a byte string is not UTF-8; `size` is that of the faulty sequence, unless the
-- string ends in the middle of one.
structure Fault where
  index : Nat
  size : Option Nat
deriving DecidableEq

def faultFrom (open? : Option Pending) (start pos : Nat) : Bytes → Option Fault
  | [] => if open?.isSome then some ⟨start, none⟩ else none
  | b :: rest =>
    let d := Decoder.step ⟨[], open?⟩ b
    match open? with
    | some p =>
      if p.low ≤ b ∧ b ≤ p.high then faultFrom d.open? start (pos + 1) rest
      else some ⟨start, some (pos - start)⟩
    | none =>
      if d.read.all Option.isSome then faultFrom d.open? pos (pos + 1) rest else some ⟨pos, some 1⟩

def fault? (b : Bytes) : Option Fault := faultFrom none 0 0 b

def Fault.message (f : Fault) : String :=
  match f.size with
  | some n => "invalid utf-8 sequence of " ++ toString n ++ " bytes from index " ++ toString f.index
  | none => "incomplete utf-8 byte sequence from index " ++ toString f.index

end RemoteExec.Bytes

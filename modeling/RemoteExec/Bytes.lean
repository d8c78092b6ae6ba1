namespace RemoteExec

abbrev Bytes := List UInt8

namespace Bytes

def ofString (s : String) : Bytes := s.toUTF8.toList

-- A multi-byte sequence under way: how many bytes are still due, the range the next one must lie in,
-- and the value collected so far.
structure Pending where
  due : Nat
  low : UInt8
  high : UInt8
  value : Nat

structure Decoder where
  read : List (Option Char)
  open? : Option Pending

def Decoder.start (read : List (Option Char)) (b : UInt8) : Decoder :=
  if b < 0x80 then ⟨some (Char.ofNat b.toNat) :: read, none⟩
  else if 0xC2 ≤ b ∧ b ≤ 0xDF then ⟨read, some ⟨1, 0x80, 0xBF, b.toNat - 0xC0⟩⟩
  else if b = 0xE0 then ⟨read, some ⟨2, 0xA0, 0xBF, 0⟩⟩
  else if b = 0xED then ⟨read, some ⟨2, 0x80, 0x9F, 0xD⟩⟩
  else if 0xE1 ≤ b ∧ b ≤ 0xEF then ⟨read, some ⟨2, 0x80, 0xBF, b.toNat - 0xE0⟩⟩
  else if b = 0xF0 then ⟨read, some ⟨3, 0x90, 0xBF, 0⟩⟩
  else if b = 0xF4 then ⟨read, some ⟨3, 0x80, 0x8F, 4⟩⟩
  else if 0xF1 ≤ b ∧ b ≤ 0xF3 then ⟨read, some ⟨3, 0x80, 0xBF, b.toNat - 0xF0⟩⟩
  else ⟨none :: read, none⟩

-- One byte further. A byte that cannot continue the open sequence leaves one gap for what was open
-- and is then read afresh.
def Decoder.step (d : Decoder) (b : UInt8) : Decoder :=
  match d.open? with
  | none => Decoder.start d.read b
  | some p =>
    if p.low ≤ b ∧ b ≤ p.high then
      let value := p.value * 64 + (b.toNat - 0x80)
      if p.due = 1 then ⟨some (Char.ofNat value) :: d.read, none⟩
      else ⟨d.read, some ⟨p.due - 1, 0x80, 0xBF, value⟩⟩
    else Decoder.start (none :: d.read) b

-- The characters of a byte string; `none` stands for a longest piece that starts no character.
def decode (b : Bytes) : List (Option Char) :=
  let d := b.foldl Decoder.step ⟨[], none⟩
  (if d.open?.isSome then none :: d.read else d.read).reverse

def toString? (b : Bytes) : Option String :=
  let cs := decode b
  if cs.all Option.isSome then some (String.ofList (cs.filterMap id)) else none

def lossy (b : Bytes) : String := String.ofList ((decode b).map (Option.getD · '\uFFFD'))

def isBlank (b : UInt8) : Bool := b == 9 || b == 10 || b == 12 || b == 13 || b == 32

def trimRight (b : Bytes) : Bytes := (b.reverse.dropWhile isBlank).reverse

def contains (needle hay : Bytes) : Bool :=
  match hay with
  | [] => needle.isEmpty
  | b :: rest => needle.isPrefixOf (b :: rest) || contains needle rest

end Bytes
end RemoteExec

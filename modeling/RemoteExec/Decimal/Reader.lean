import RemoteExec.Decimal.Binary64
import RemoteExec.Text.Blank

namespace RemoteExec.Decimal

def largest64 : Nat := 18446744073709551615

def digitValue (c : Char) : Nat := c.toNat - 48

def digitsValue (ds : List Char) : Nat := ds.foldl (fun n c => n * 10 + digitValue c) 0

def readNat? (limit : Nat) (s : List Char) : Option Nat :=
  let ds := match s with
    | '+' :: r => r
    | r => r
  if ds.isEmpty || !ds.all Char.isDigit then none
  else
    let n := digitsValue ds
    if n ≤ limit then some n else none

def readInt? (limit : Nat) (s : List Char) : Option Int :=
  match s with
  | '-' :: ds =>
    if ds.isEmpty || !ds.all Char.isDigit || digitsValue ds > limit + 1 then none
    else some (-(digitsValue ds : Int))
  | _ => (readNat? limit s).map Int.ofNat

def readExponent? (s : List Char) : Option Int :=
  let (negative, ds) := match s with
    | '-' :: r => (true, r)
    | '+' :: r => (false, r)
    | r => (false, r)
  if ds.isEmpty || !ds.all Char.isDigit then none
  else some (if negative then -(digitsValue ds : Int) else digitsValue ds)

def readUnsigned? (negative : Bool) (s : List Char) : Option Binary64 :=
  let whole := s.takeWhile Char.isDigit
  let rest := s.dropWhile Char.isDigit
  let (fraction, rest) := match rest with
    | '.' :: r => (r.takeWhile Char.isDigit, r.dropWhile Char.isDigit)
    | r => ([], r)
  if whole.isEmpty && fraction.isEmpty then none
  else
    let exponent? := match rest with
      | [] => some 0
      | 'e' :: r => readExponent? r
      | 'E' :: r => readExponent? r
      | _ => none
    exponent?.map fun e =>
      Binary64.ofDecimal negative (digitsValue (whole ++ fraction)) (e - (fraction.length : Int))

def readBinary64? (s : List Char) : Option Binary64 :=
  let (negative, body) := match s with
    | '-' :: r => (true, r)
    | '+' :: r => (false, r)
    | r => (false, r)
  let word := String.ofList (body.map Text.asciiLower)
  if word == "inf" || word == "infinity" then some (.infinite negative)
  else if word == "nan" then some .nan
  else readUnsigned? negative body

end RemoteExec.Decimal

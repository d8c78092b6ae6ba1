import RemoteExec.Decimal.Shortest

namespace RemoteExec.Decimal

def zeros (n : Nat) : String := String.ofList (List.replicate n '0')

def placed (ds : String) (k : Int) (whole : String) : String :=
  let n := ds.length
  if k ≤ 0 then "0." ++ zeros (-k).toNat ++ ds
  else if (n : Int) ≤ k then ds ++ zeros (k.toNat - n) ++ whole
  else String.ofList (ds.toList.take k.toNat) ++ "." ++ String.ofList (ds.toList.drop k.toNat)

def sign (negative : Bool) : String := if negative then "-" else ""

def Binary64.positional : Binary64 → String
  | .nan => "NaN"
  | .infinite negative => sign negative ++ "inf"
  | .finite negative m q =>
    let d := shortest m q
    let ds := toString d.digits
    if d.digits = 0 then sign negative ++ "0"
    else sign negative ++ placed ds ((ds.length : Int) + d.exponent) ""

def Binary64.dataText : Binary64 → String
  | .nan | .infinite _ => "null"
  | .finite negative m q =>
    let d := shortest m q
    let ds := toString d.digits
    let k := (ds.length : Int) + d.exponent
    if d.digits = 0 then sign negative ++ "0.0"
    else if -5 < k ∧ k ≤ 16 then sign negative ++ placed ds k ".0"
    else
      let e := k - 1
      let head := if ds.length = 1 then ds
        else String.ofList (ds.toList.take 1) ++ "." ++ String.ofList (ds.toList.drop 1)
      sign negative ++ head ++ "e" ++ (if e < 0 then "-" else "+") ++ toString e.natAbs

end RemoteExec.Decimal

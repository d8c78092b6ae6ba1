import RemoteExec.Decimal.Layout

namespace RemoteExec

inductive Json.Number where
  | natural (n : Nat)
  -- The number `-n`, with `0 < n`.
  | negative (n : Nat)
  | float (x : Decimal.Binary64)
deriving DecidableEq, Inhabited

inductive Json where
  | null
  | bool (b : Bool)
  | num (n : Json.Number)
  | str (s : String)
  | arr (items : List Json)
  | obj (entries : List (String × Json))
deriving Inhabited

namespace Json

def Number.text : Number → String
  | .natural n => toString n
  | .negative n => "-" ++ toString n
  | .float x => x.dataText

def Number.toBinary64 : Number → Decimal.Binary64
  | .natural n => Decimal.Binary64.ofNat false n
  | .negative n => Decimal.Binary64.ofNat true n
  | .float x => x

def Number.isZero : Number → Bool
  | .natural n => n == 0
  | .negative _ => false
  | .float x => x.isZero

def insert (name : String) (value : Json) : List (String × Json) → List (String × Json)
  | [] => [(name, value)]
  | (n, v) :: rest =>
    if name = n then (name, value) :: rest
    else if name < n then (name, value) :: (n, v) :: rest
    else (n, v) :: insert name value rest

def lookup (name : String) : List (String × Json) → Option Json
  | [] => none
  | (n, v) :: rest => if n = name then some v else lookup name rest

def get? (name : String) : Json → Option Json
  | .obj entries => lookup name entries
  | _ => none

end Json
end RemoteExec

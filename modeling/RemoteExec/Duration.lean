import RemoteExec.Decimal.Layout

namespace RemoteExec

structure Duration where
  secs : Nat
  nanos : Nat
deriving DecidableEq, Inhabited

namespace Duration

def nanosPerSecond : Nat := 1000000000

def ofSecs (secs : Nat) : Duration := ⟨secs, 0⟩

def ofSeconds (x : Decimal.Binary64) : Except String Duration :=
  let outOfRange := "cannot convert float seconds to Duration: value is either too big or NaN"
  match x with
  | .nan => .error outOfRange
  | .infinite true => .error "cannot convert float seconds to Duration: value is negative"
  | .infinite false => .error outOfRange
  | .finite negative m q =>
    if negative && m != 0 then .error "cannot convert float seconds to Duration: value is negative"
    else
      let (num, den) := Decimal.Binary64.ratio m q
      let total := Decimal.Binary64.nearest (num * nanosPerSecond) den
      if total / nanosPerSecond < 18446744073709551616 then .ok ⟨total / nanosPerSecond, total % nanosPerSecond⟩ else .error outOfRange

def totalNanos (d : Duration) : Nat := d.secs * nanosPerSecond + d.nanos

def decimals (fraction width : Nat) : String :=
  if fraction = 0 then ""
  else
    let ds := (toString fraction).toList
    let padded := List.replicate (width - ds.length) '0' ++ ds
    "." ++ String.ofList (padded.reverse.dropWhile (· == '0')).reverse

def inspect (d : Duration) : String :=
  if 0 < d.secs then toString d.secs ++ decimals d.nanos 9 ++ "s"
  else if 1000000 ≤ d.nanos then toString (d.nanos / 1000000) ++ decimals (d.nanos % 1000000) 6 ++ "ms"
  else if 1000 ≤ d.nanos then toString (d.nanos / 1000) ++ decimals (d.nanos % 1000) 3 ++ "µs"
  else toString d.nanos ++ "ns"

end Duration
end RemoteExec

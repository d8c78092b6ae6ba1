import RemoteExec.Json.Value
import RemoteExec.Decimal.Reader

namespace RemoteExec.Json

abbrev Rest := List Char

def skipBlanks (s : Rest) : Rest := s.dropWhile fun c => c == ' ' || c == '\n' || c == '\t' || c == '\r'

def u64Max : Nat := 18446744073709551615

-- `significand · 10^exponent`, by one division or multiplication with a power of ten that is itself
-- rounded; powers below `10^-308` take several divisions.
def scale : Nat → Decimal.Binary64 → Int → Option Decimal.Binary64
  | 0, f, _ => some f
  | fuel + 1, f, exponent =>
    if exponent.natAbs ≤ 308 then
      let power := Decimal.Binary64.ofDecimal false 1 exponent.natAbs
      if 0 ≤ exponent then
        let r := f.mul power
        if r.isFinite then some r else none
      else some (f.div power)
    else if f.isZero then some f
    else if 0 ≤ exponent then none
    else scale fuel (f.div (Decimal.Binary64.ofDecimal false 1 308)) (exponent + 308)

def fromParts (positive : Bool) (significand : Nat) (exponent : Int) : Option Number :=
  (scale 8 (Decimal.Binary64.ofNat false significand) exponent).map fun f =>
    .float (if positive then f else f.negate)

def readExponent (positive : Bool) (significand : Nat) (start : Int) (s : Rest) : Option (Number × Rest) :=
  let (up, s) := match s with
    | '+' :: r => (true, r)
    | '-' :: r => (false, r)
    | r => (true, r)
  let ds := s.takeWhile Char.isDigit
  let rest := s.dropWhile Char.isDigit
  if ds.isEmpty then none
  else
    let e := Decimal.digitsValue ds
    if e > 2147483647 then
      if significand ≠ 0 && up then none
      else some (.float (Decimal.Binary64.zero (!positive)), rest)
    else (fromParts positive significand (if up then start + e else start - e)).map fun n => (n, rest)

-- Adds digits to a significand as long as it stays below `2^64`; what is left begins with the first
-- digit that does not fit, or with no digit.
def takeDigits (significand count : Nat) : Rest → Nat × Nat × Rest
  | [] => (significand, count, [])
  | c :: rest =>
    if c.isDigit && significand * 10 + Decimal.digitValue c ≤ u64Max then
      takeDigits (significand * 10 + Decimal.digitValue c) (count + 1) rest
    else (significand, count, c :: rest)

def readFraction (positive : Bool) (significand : Nat) (start : Int) (s : Rest) : Option (Number × Rest) :=
  let (significand, count, rest) := takeDigits significand 0 s
  let dropped := rest.takeWhile Char.isDigit
  let rest := rest.dropWhile Char.isDigit
  if count = 0 && dropped.isEmpty then none
  else
    let e := start - (count : Int)
    match rest with
    | 'e' :: r => readExponent positive significand e r
    | 'E' :: r => readExponent positive significand e r
    | r => (fromParts positive significand e).map fun n => (n, r)

def readNumber (positive : Bool) (s : Rest) : Option (Number × Rest) :=
  match s with
  | [] => none
  | c :: more =>
    if !c.isDigit then none
    else if c == '0' && (more.head?.map Char.isDigit).getD false then none
    else
      let (significand, _, rest) := takeDigits 0 0 s
      let surplus := rest.takeWhile Char.isDigit
      let rest := rest.dropWhile Char.isDigit
      match rest with
      | '.' :: r => readFraction positive significand surplus.length r
      | 'e' :: r => readExponent positive significand surplus.length r
      | 'E' :: r => readExponent positive significand surplus.length r
      | r =>
        if !surplus.isEmpty then (fromParts positive significand surplus.length).map fun n => (n, r)
        else if positive then some (.natural significand, r)
        else if significand = 0 || significand > 9223372036854775808 then
          some (.float (Decimal.Binary64.ofNat true significand), r)
        else some (.negative significand, r)

def hexValue? (c : Char) : Option Nat :=
  if '0' ≤ c ∧ c ≤ '9' then some (c.toNat - 48)
  else if 'a' ≤ c ∧ c ≤ 'f' then some (c.toNat - 87)
  else if 'A' ≤ c ∧ c ≤ 'F' then some (c.toNat - 55)
  else none

def readHex4 : Rest → Option (Nat × Rest)
  | a :: b :: c :: d :: rest => do
    let a ← hexValue? a
    let b ← hexValue? b
    let c ← hexValue? c
    let d ← hexValue? d
    some (a * 4096 + b * 256 + c * 16 + d, rest)
  | _ => none

def readUnit (s : Rest) : Option (Char × Rest) := do
  let (hi, rest) ← readHex4 s
  if 0xD800 ≤ hi ∧ hi ≤ 0xDBFF then
    match rest with
    | '\\' :: 'u' :: rest =>
      let (lo, rest) ← readHex4 rest
      if 0xDC00 ≤ lo ∧ lo ≤ 0xDFFF then
        some (Char.ofNat (0x10000 + (hi - 0xD800) * 1024 + (lo - 0xDC00)), rest)
      else none
    | _ => none
  else if 0xDC00 ≤ hi ∧ hi ≤ 0xDFFF then none
  else some (Char.ofNat hi, rest)

def simpleEscape? (c : Char) : Option Char :=
  match c with
  | '"' => some '"'
  | '\\' => some '\\'
  | '/' => some '/'
  | 'b' => some '\x08'
  | 'f' => some '\x0c'
  | 'n' => some '\n'
  | 'r' => some '\r'
  | 't' => some '\t'
  | _ => none

def readString : Nat → List Char → Rest → Option (String × Rest)
  | 0, _, _ => none
  | fuel + 1, out, s =>
    match s with
    | [] => none
    | '"' :: rest => some (String.ofList out.reverse, rest)
    | '\\' :: 'u' :: rest =>
      match readUnit rest with
      | some (c, rest) => readString fuel (c :: out) rest
      | none => none
    | '\\' :: e :: rest =>
      match simpleEscape? e with
      | some c => readString fuel (c :: out) rest
      | none => none
    | c :: rest => if c.toNat < 0x20 || c == '\\' then none else readString fuel (c :: out) rest

def readWord (word : List Char) (value : Json) (s : Rest) : Option (Json × Rest) :=
  if word.isPrefixOf s then some (value, s.drop word.length) else none

mutual

def readValue : Nat → Nat → Rest → Option (Json × Rest)
  | 0, _, _ => none
  | fuel + 1, depth, s =>
    match skipBlanks s with
    | 'n' :: rest => readWord ['u', 'l', 'l'] .null rest
    | 't' :: rest => readWord ['r', 'u', 'e'] (.bool true) rest
    | 'f' :: rest => readWord ['a', 'l', 's', 'e'] (.bool false) rest
    | '-' :: rest => (readNumber false rest).map fun r => (.num r.1, r.2)
    | '"' :: rest => (readString (rest.length + 1) [] rest).map fun r => (.str r.1, r.2)
    | '[' :: rest =>
      if depth = 0 then none
      else match skipBlanks rest with
        | ']' :: rest => some (.arr [], rest)
        | rest => readItems fuel (depth - 1) [] rest
    | '\x7b' :: rest =>
      if depth = 0 then none
      else match skipBlanks rest with
        | '\x7d' :: rest => some (.obj [], rest)
        | rest => readEntries fuel (depth - 1) [] rest
    | rest => (readNumber true rest).map fun r => (.num r.1, r.2)

def readItems : Nat → Nat → List Json → Rest → Option (Json × Rest)
  | 0, _, _, _ => none
  | fuel + 1, depth, items, s =>
    match readValue fuel depth s with
    | none => none
    | some (v, rest) =>
      match skipBlanks rest with
      | ',' :: rest => readItems fuel depth (v :: items) rest
      | ']' :: rest => some (.arr (v :: items).reverse, rest)
      | _ => none

def readEntries : Nat → Nat → List (String × Json) → Rest → Option (Json × Rest)
  | 0, _, _, _ => none
  | fuel + 1, depth, entries, s =>
    match skipBlanks s with
    | '"' :: rest =>
      match readString (rest.length + 1) [] rest with
      | none => none
      | some (name, rest) =>
        match skipBlanks rest with
        | ':' :: rest =>
          match readValue fuel depth rest with
          | none => none
          | some (v, rest) =>
            match skipBlanks rest with
            | ',' :: rest => readEntries fuel depth (insert name v entries) rest
            | '\x7d' :: rest => some (.obj (insert name v entries), rest)
            | _ => none
        | _ => none
    | _ => none

end

def parse? (s : String) : Option Json :=
  let cs := s.toList
  match readValue (cs.length + 1) 127 cs with
  | some (v, rest) => if (skipBlanks rest).isEmpty then some v else none
  | none => none

end RemoteExec.Json

import RemoteExec.Crypto.Base64
import RemoteExec.Crypto.Sha256
import RemoteExec.HostKeys.Policy
import RemoteExec.Keys.Algorithm

namespace RemoteExec

structure PublicKey where
  keyType : String
  blob : Bytes
deriving DecidableEq, Inhabited

namespace PublicKey

def takeField (b : Bytes) : Option (Bytes × Bytes) :=
  let size := Bytes.toNat (b.take 4)
  let rest := b.drop 4
  if b.length < 4 || rest.length < size then none else some (rest.take size, rest.drop size)

def fields? : Nat → Bytes → Option (List Bytes)
  | 0, b => if b.isEmpty then some [] else none
  | limit + 1, b =>
    if b.isEmpty then some []
    else do
      let (field, rest) ← takeField b
      let more ← fields? limit rest
      some (field :: more)

def isPositive (field : Bytes) : Bool :=
  match field with
  | [] => false
  | a :: rest => a < 0x80 && (a != 0 || (rest.head?.any fun b => 0x80 ≤ b))

def isPoint (size : Nat) (field : Bytes) : Bool :=
  match field with
  | [] => false
  | a :: rest => (a == 4 && rest.length == 2 * size) || ((a == 2 || a == 3) && rest.length == size)

def curveSize? (curve : String) : Option Nat :=
  if curve == "nistp256" then some 32
  else if curve == "nistp384" then some 48
  else if curve == "nistp521" then some 66
  else none

def fits (keyType : String) (fields : List Bytes) : Bool :=
  if keyType == "ssh-ed25519" then
    match fields with
    | [point] => point.length == 32
    | _ => false
  else if keyType == "ssh-rsa" then
    match fields with
    | [e, n] => isPositive e && isPositive n
    | _ => false
  else if keyType == "ssh-dss" then fields.length == 4 && fields.all isPositive
  else match fields with
    | [curve, point] =>
      match curve.toString? with
      | some name => keyType == "ecdsa-sha2-" ++ name && (curveSize? name).any (isPoint · point)
      | none => false
    | [curve, point, application] =>
      keyType == "sk-ecdsa-sha2-nistp256@openssh.com" && curve.toString? == some "nistp256" && isPoint 32 point &&
        application.toString?.isSome
    | _ => false

def ofBlob? (blob : Bytes) : Option PublicKey := do
  let all ← fields? 8 blob
  match all with
  | [] => none
  | first :: rest =>
    let name ← first.toString?
    let sk := match rest with
      | [point, application] =>
        name == "sk-ssh-ed25519@openssh.com" && point.length == 32 && application.toString?.isSome
      | _ => false
    if sk || fits name rest then some ⟨name, blob⟩ else none

def isWordChar (c : Char) : Bool :=
  c.isAlphanum || c == '+' || c == '-' || c == '/' || c == '=' || c == '@' || c == '.'

def takeWord (s : List Char) : Option (List Char × List Char) :=
  match s.dropWhile isWordChar with
  | [] => some (s, [])
  | ' ' :: rest => some (s.takeWhile isWordChar, rest)
  | _ => none

def ofLine? (line : String) : Option PublicKey := do
  let (name, rest) ← takeWord (Text.trimRight line.toList)
  let (data, _) ← takeWord rest
  let key ← ofBlob? (← Base64.decodePadded? data)
  if key.keyType == String.ofList name then some key else none

def base64 (k : PublicKey) : String := Base64.encodePadded k.blob

def fingerprint (k : PublicKey) : String := "SHA256:" ++ Base64.encode (Sha256.digest k.blob)

def hostKey (k : PublicKey) (host : String) (port : Nat) (message : String) : HostKey :=
  ⟨host, port, k.keyType, k.fingerprint, message, k.base64⟩

end PublicKey
end RemoteExec

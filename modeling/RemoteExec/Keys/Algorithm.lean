import RemoteExec.Log
import RemoteExec.Text.Blank

namespace RemoteExec

namespace KeyAlgorithm

def standardNames : List String :=
  ["ssh-dss", "ecdsa-sha2-nistp256", "ecdsa-sha2-nistp384", "ecdsa-sha2-nistp521", "rsa-sha2-256", "rsa-sha2-512",
    "ssh-ed25519", "ssh-rsa", "sk-ecdsa-sha2-nistp256@openssh.com", "sk-ssh-ed25519@openssh.com"]

def isPrivateName (name : String) : Bool :=
  match Text.splitOn '@' name.toList with
  | [left, right] => !left.isEmpty && !right.isEmpty && name.length ≤ 64 && name.toList.all fun c => c.toNat < 128
  | _ => false

def isKnown (name : String) : Bool := standardNames.contains name || isPrivateName name

def isRsa (name : String) : Bool := name == "ssh-rsa" || name == "rsa-sha2-256" || name == "rsa-sha2-512"

def items (list : String) : List String :=
  (Text.splitOn ',' list.toList).map fun i => String.ofList (Text.trim i)

def parseList (list : String) : List String × List Event :=
  let names := (items list).filter (!·.isEmpty)
  (names.filter isKnown, (names.filter (!isKnown ·)).map fun n => ⟨.warn, "Ignoring unknown key algorithm '" ++ n ++ "'"⟩)

def preferredHostKeys : List String :=
  ["ssh-ed25519", "ecdsa-sha2-nistp256", "ecdsa-sha2-nistp384", "ecdsa-sha2-nistp521", "rsa-sha2-512", "rsa-sha2-256",
    "ssh-rsa"]

def hostKeys (list? : Option String) : List String × List Event :=
  match list? with
  | none => (preferredHostKeys, [])
  | some list =>
    let (names, events) := parseList list
    if names.isEmpty then
      (preferredHostKeys, events ++ [⟨.warn, "No usable host key algorithms in '" ++ list ++ "', using defaults"⟩])
    else (names, events)

end KeyAlgorithm

inductive RsaSignature where
  | sha512
  | sha256
  | plain
deriving DecidableEq

def RsaSignature.ofList? (list : String) : Option RsaSignature :=
  let names := KeyAlgorithm.items list
  if names.contains "rsa-sha2-512" then some .sha512
  else if names.contains "rsa-sha2-256" then some .sha256
  else if names.contains "ssh-rsa" then some .plain
  else none

end RemoteExec

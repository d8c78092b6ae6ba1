import RemoteExec.Keys.PublicKey
import RemoteExec.Text.Inspect

namespace RemoteExec.Negotiation

def algorithmsOf (keyType : String) : List String :=
  if keyType == "ssh-rsa" then ["rsa-sha2-512", "rsa-sha2-256", "ssh-rsa"] else [keyType]

def serves (key : PublicKey) (algorithm : String) : Bool := (algorithmsOf key.keyType).contains algorithm

def offered (keys : List PublicKey) : List String :=
  KeyAlgorithm.preferredHostKeys.filter fun a => keys.any (serves · a)

def inspectNames (names : List String) : String := "[" ++ ", ".intercalate (names.map Text.inspect) ++ "]"

def choose (accepted : List String) (keys : List PublicKey) : Except String PublicKey :=
  match accepted.findSome? fun a => keys.find? (serves · a) with
  | some key => .ok key
  | none =>
    .error ("No common Key algorithm - ours: " ++ inspectNames accepted ++ ", theirs: " ++ inspectNames (offered keys))

end RemoteExec.Negotiation

import RemoteExec.Client.Target
import RemoteExec.Duration
import RemoteExec.Keys.PublicKey

namespace RemoteExec

inductive AuthRequest where
  | key (user : String) (key : PublicKey)
  | password (user secret : String)
  | interactive (user : String)
  -- One answer for each question of the last round.
  | answers (texts : List String)
deriving DecidableEq

inductive Verdict where
  | success
  | failure
  | questions (prompts : List String)
deriving DecidableEq, Inhabited

inductive Message where
  | data (b : Bytes)
  -- Data beside the main stream; code 1 is the error stream.
  | extended (code : Nat) (b : Bytes)
  | exitStatus (n : Nat)
  | eof
  | close
  | other
deriving DecidableEq, Inhabited

inductive ConnectFault where
  | timeout
  | failed (text : String)
deriving DecidableEq

abbrev LinkId := Nat

structure Line where
  link : LinkId
  number : Nat
deriving DecidableEq, Inhabited

structure Server (π : Type) where
  connect : Target → Duration → StateM π (Except ConnectFault LinkId)
  hostKeys : π → List PublicKey
  authenticate : LinkId → AuthRequest → StateM π (Except String Verdict)
  openChannel : LinkId → StateM π (Except String Line)
  requestPty : Line → StateM π (List Message)
  run : Line → Bytes → StateM π (List Message)
  input : Line → Bytes → StateM π (List Message)
  closeChannel : Line → StateM π Unit
  startFiles : Line → StateM π Unit
  createFile : String → StateM π (Except String Unit)
  writeFile : String → Bytes → StateM π Unit
  readFile : π → String → Except String Bytes
  -- A bound on the bytes that a channel has not sent yet.
  unsent : π → Line → Nat
  disconnect : LinkId → StateM π (Except String Unit)

end RemoteExec

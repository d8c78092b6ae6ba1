import RemoteExec.Bytes
import RemoteExec.CommandLine.Parser

namespace RemoteExec.CommandLine

inductive Operation where
  | exec (command : String)
  | put (source target protocol : String)
  | fetch (source target protocol : String)
deriving DecidableEq

-- Paths are bytes, which need not be text.
structure Arguments where
  host : Option String
  port : Option Nat
  user : Option String
  password : Option String
  passwordPrompt : Option String
  key : Option Bytes
  proxyCommand : Option String
  sshCommonArgs : Option String
  sshExtraArgs : Option String
  noHostKeyChecking : Bool
  hostKeyAutoAdd : Bool
  noLookForKeys : Bool
  noPty : Bool
  persistent : Bool
  timeout : Option Decimal.Binary64
  configFile : Option Bytes
  hostkeys : Option String
  publickeyAlgorithms : Option String
  knownHosts : Option Bytes
  optionsFile : Option Bytes
  verbose : Nat
  become : Bool
  becomeUser : String
  becomePassword : Option String
  json : Bool
  operation : Operation
deriving DecidableEq

namespace Reading

def text? (r : Reading) (name : String) : Option String :=
  match r.get? name with
  | some (.text s) => some s
  | _ => none

def path? (r : Reading) (name : String) : Option Bytes := (r.text? name).map Bytes.ofString

def flag (r : Reading) (name : String) : Bool := r.get? name == some (.flag true)

def port? (r : Reading) : Option Nat :=
  match r.get? "port" with
  | some (.port n) => some n
  | _ => none

def seconds? (r : Reading) : Option Decimal.Binary64 :=
  match r.get? "timeout" with
  | some (.seconds x) => some x
  | _ => none

def count (r : Reading) : Nat :=
  match r.get? "verbose" with
  | some (.count n) => n
  | _ => 0

def operation (name : String) (r : Reading) : Operation :=
  let remote := (r.text? "remote").getD ""
  let local_ := (r.text? "local").getD ""
  let protocol := (r.text? "proto").getD "sftp"
  if name == "exec" then .exec ((r.text? "command").getD "")
  else if name == "put" then .put local_ remote protocol
  else .fetch remote local_ protocol

end Reading

def Arguments.ofReading (r : Reading) (operation : Operation) : Arguments where
  host := r.text? "host"
  port := r.port?
  user := r.text? "user"
  password := r.text? "password"
  passwordPrompt := r.text? "password-prompt"
  key := r.path? "key"
  proxyCommand := r.text? "proxy-command"
  sshCommonArgs := r.text? "ssh-common-args"
  sshExtraArgs := r.text? "ssh-extra-args"
  noHostKeyChecking := r.flag "no-host-key-checking"
  hostKeyAutoAdd := r.flag "host-key-auto-add"
  noLookForKeys := r.flag "no-look-for-keys"
  noPty := r.flag "no-pty"
  persistent := r.flag "persistent"
  timeout := r.seconds?
  configFile := r.path? "config-file"
  hostkeys := r.text? "hostkeys"
  publickeyAlgorithms := r.text? "publickey-algorithms"
  knownHosts := r.path? "known-hosts"
  optionsFile := r.path? "options-file"
  verbose := r.count
  become := r.flag "become"
  becomeUser := (r.text? "become-user").getD "root"
  becomePassword := r.text? "become-password"
  json := r.flag "json"
  operation := operation

def Arguments.parse (env : Environment) (words : List String) : Except UsageError Arguments := do
  let (r, name, inner) ← readLine env words
  return Arguments.ofReading r (inner.operation name)

end RemoteExec.CommandLine

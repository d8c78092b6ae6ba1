import RemoteExec.CommandLine.Arguments
import RemoteExec.Escalation.Sudo
import RemoteExec.Files.FileSystem
import RemoteExec.Json.Reader
import RemoteExec.Options
import RemoteExec.Transfer.Protocol

namespace RemoteExec.CommandLine

inductive Task where
  | exec (command : String)
  | put (source target : String) (protocol : TransferProtocol)
  | fetch (source target : String) (protocol : TransferProtocol)
deriving DecidableEq

structure Become where
  user : String
  password : Option String
deriving DecidableEq

structure Config where
  options : Options
  task : Task
  become : Option Become
  json : Bool
deriving DecidableEq

-- The names in the tree are texts, so a path that is none leads nowhere.
def readOptionsFile (fs : FileSystem) (path : Bytes) : Except Failure Entries :=
  match path.toString?.elim (.error .notFound) fs.readText with
  | .error e => .error (.config ("cannot read options file " ++ path.lossy ++ ": " ++ e.message))
  | .ok content =>
    match Json.parse? content with
    | some (.obj entries) => .ok entries
    | some _ => .error (.config ("options file " ++ path.lossy ++ " must contain a JSON object"))
    | none => .error (.config ("invalid options file " ++ path.lossy))

def fileEntries (fs : FileSystem) (a : Arguments) : Except Failure Entries :=
  match a.optionsFile with
  | some path => readOptionsFile fs path
  | none => .ok []

def flagEntries (a : Arguments) : Entries :=
  let text := fun (name : String) (v : Option String) => (v.map fun s => (name, Json.str s)).toList
  let path := fun (name : String) (v : Option Bytes) => text name (v.map Bytes.lossy)
  let fixed := fun (given : Bool) (name : String) (b : Bool) => if given then [(name, Json.bool b)] else []
  text "remote_addr" a.host ++ (a.port.map fun n => ("port", Json.num (.natural n))).toList ++
  text "remote_user" a.user ++ text "password" (sanitizePassword a.password) ++
  text "password_prompt" a.passwordPrompt ++ path "private_key_file" a.key ++ text "proxy_command" a.proxyCommand ++
  text "ssh_common_args" a.sshCommonArgs ++ text "ssh_extra_args" a.sshExtraArgs ++
  fixed a.noHostKeyChecking "host_key_checking" false ++ fixed a.hostKeyAutoAdd "host_key_auto_add" true ++
  fixed a.noLookForKeys "look_for_keys" false ++ fixed a.noPty "pty" false ++
  fixed a.persistent "use_persistent_connections" true ++
  (a.timeout.map fun x => ("timeout", Json.num (.float x))).toList ++ path "config_file" a.configFile ++
  text "hostkeys" a.hostkeys ++ text "publickey_accepted_algorithms" a.publickeyAlgorithms ++
  path "known_hosts_file" a.knownHosts ++
  (if 0 < a.verbose then [("verbosity", Json.num (.natural a.verbose))] else [])

def layered (file flags : Entries) : Entries := flags.foldl (fun all e => Json.insert e.1 e.2 all) file

def textOf (entries : Entries) (name : String) : Option String :=
  match Json.lookup name entries with
  | some (.str s) => some s
  | _ => none

def isPositive (x : Decimal.Binary64) : Bool := x.isFinite && !x.isZero && !x.isNegative

def complaints (fs : FileSystem) (a : Arguments) (entries : Entries) : List String :=
  (if ((textOf entries "remote_addr").filter (!·.isEmpty)).isNone then ["Missing required --host"] else []) ++
  (match textOf entries "private_key_file" with
    | some key =>
      if !fs.exists? key && key.toList.head? != some '~' then ["SSH key file not found: " ++ key] else []
    | none => []) ++
  (match a.timeout with
    | some x => if isPositive x then [] else ["--timeout must be a positive number, got " ++ x.positional]
    | none => []) ++
  (if a.becomePassword.isSome && !a.become then ["--become-password requires --become"] else [])

def Task.ofOperation : Operation → Except Failure Task
  | .exec command => .ok (.exec command)
  | .put source target protocol => (TransferProtocol.ofName protocol).map (.put source target)
  | .fetch source target protocol => (TransferProtocol.ofName protocol).map (.fetch source target)

def Config.ofEntries (fs : FileSystem) (file : Entries) (a : Arguments) : Except Failure Config := do
  let entries := layered file (flagEntries a)
  let wrong := complaints fs a entries
  unless wrong.isEmpty do throw (.config ("\n".intercalate wrong))
  let options ← Options.ofEntries entries
  let task ← Task.ofOperation a.operation
  return {
    options, task
    become := if a.become then some ⟨a.becomeUser, sanitizePassword a.becomePassword⟩ else none
    json := a.json }

def Config.ofArguments (fs : FileSystem) (a : Arguments) : Except Failure Config := do
  Config.ofEntries fs (← fileEntries fs a) a

end RemoteExec.CommandLine

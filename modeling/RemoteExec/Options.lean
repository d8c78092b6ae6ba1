import RemoteExec.Json.Printer
import RemoteExec.Decimal.Reader
import RemoteExec.Text.Lowercase
import RemoteExec.Duration
import RemoteExec.Environment
import RemoteExec.Failure
/-!
The options of one connection and how loosely typed entries become them: texts may be written as
numbers, numbers as texts, switches as words, and an empty text stands for no entry.
-/
namespace RemoteExec

abbrev Entries := List (String × Json)

structure Options where
  remoteAddr : String
  remoteUser : Option String
  port : Option Nat
  password : Option String
  passwordPrompt : Option String
  privateKeyFile : Option String
  proxyCommand : Option String
  sshArgs : Option String
  sshCommonArgs : Option String
  sshExtraArgs : Option String
  hostKeyChecking : Bool
  hostKeyAutoAdd : Bool
  lookForKeys : Bool
  pty : Bool
  publickeyAcceptedAlgorithms : Option String
  hostkeys : Option String
  configFile : Option String
  knownHostsFile : Option String
  persistent : Bool
  timeout : Duration
  verbosity : Nat
deriving DecidableEq, Inhabited

namespace Options

def defaultPort : Nat := 22

def ofAddr (addr : String) : Options where
  remoteAddr := addr
  remoteUser := none
  port := none
  password := none
  passwordPrompt := none
  privateKeyFile := none
  proxyCommand := none
  sshArgs := none
  sshCommonArgs := none
  sshExtraArgs := none
  hostKeyChecking := true
  hostKeyAutoAdd := false
  lookForKeys := true
  pty := true
  publickeyAcceptedAlgorithms := none
  hostkeys := none
  configFile := none
  knownHostsFile := none
  persistent := false
  timeout := Duration.ofSecs 10
  verbosity := 0

def trueWords : List String := ["1", "true", "yes", "on", "y", "t"]

def falseWords : List String := ["0", "false", "no", "off", "n", "f", ""]

def text? (entries : Entries) (name : String) : Except Failure (Option String) :=
  match Json.lookup name entries with
  | none | some .null => .ok none
  | some (.str s) => .ok (if s.isEmpty then none else some s)
  | some (.num n) => .ok (some n.text)
  | some v => .error (.config ("option " ++ name ++ " expects a string, got " ++ v.compact))

def switch? (entries : Entries) (name : String) : Except Failure (Option Bool) :=
  match Json.lookup name entries with
  | none | some .null => .ok none
  | some (.bool b) => .ok (some b)
  | some (.num n) => .ok (some !n.isZero)
  | some (.str s) =>
    let word := s.trimBlanks.lowercase
    if trueWords.contains word then .ok (some true)
    else if falseWords.contains word then .ok (some false)
    else .error (.config ("option " ++ name ++ " expects a boolean, got '" ++ s ++ "'"))
  | some v => .error (.config ("option " ++ name ++ " expects a boolean, got " ++ v.compact))

def natural? (entries : Entries) (name : String) : Except Failure (Option Nat) :=
  match Json.lookup name entries with
  | none | some .null => .ok none
  | some (.num (.natural n)) => .ok (some n)
  | some (.num _) => .error (.config ("option " ++ name ++ " must be a positive integer"))
  | some (.str s) =>
    if s.trimBlanks.isEmpty then .ok none
    else match Decimal.readNat? Decimal.largest64 s.trimBlanks.toList with
      | some n => .ok (some n)
      | none => .error (.config ("option " ++ name ++ " must be a positive integer, got '" ++ s ++ "'"))
  | some v => .error (.config ("option " ++ name ++ " expects an integer, got " ++ v.compact))

def number? (entries : Entries) (name : String) : Except Failure (Option Decimal.Binary64) :=
  match Json.lookup name entries with
  | none | some .null => .ok none
  | some (.num n) => .ok (some n.toBinary64)
  | some (.str s) =>
    if s.trimBlanks.isEmpty then .ok none
    else match Decimal.readBinary64? s.trimBlanks.toList with
      | some x => .ok (some x)
      | none => .error (.config ("option " ++ name ++ " must be a number, got '" ++ s ++ "'"))
  | some v => .error (.config ("option " ++ name ++ " expects a number, got " ++ v.compact))

def portOf (n? : Option Nat) : Except Failure (Option Nat) :=
  match n? with
  | none => .ok none
  | some n => if n < 65536 then .ok (some n) else .error (.config ("invalid port " ++ toString n))

def timeoutOf (x? : Option Decimal.Binary64) : Except Failure (Option Duration) :=
  match x? with
  | none => .ok none
  | some x =>
    match Duration.ofSeconds x with
    | .ok d => .ok (some d)
    | .error why => .error (.config ("invalid timeout " ++ x.positional ++ ": " ++ why))

def ofEntries (entries : Entries) : Except Failure Options := do
  let addr? ← text? entries "remote_addr"
  let some addr := addr? | throw (.config "remote_addr is required")
  let d := ofAddr addr
  let remoteUser ← text? entries "remote_user"
  let port ← portOf (← natural? entries "port")
  let password ← text? entries "password"
  let passwordPrompt ← text? entries "password_prompt"
  let privateKeyFile ← text? entries "private_key_file"
  let proxyCommand ← text? entries "proxy_command"
  let sshArgs ← text? entries "ssh_args"
  let sshCommonArgs ← text? entries "ssh_common_args"
  let sshExtraArgs ← text? entries "ssh_extra_args"
  let publickeyAcceptedAlgorithms ← text? entries "publickey_accepted_algorithms"
  let hostkeys ← text? entries "hostkeys"
  let configFile ← text? entries "config_file"
  let knownHostsFile ← text? entries "known_hosts_file"
  let hostKeyChecking ← switch? entries "host_key_checking"
  let hostKeyAutoAdd ← switch? entries "host_key_auto_add"
  let lookForKeys ← switch? entries "look_for_keys"
  let pty ← switch? entries "pty"
  let persistent ← switch? entries "use_persistent_connections"
  let timeout ← timeoutOf (← number? entries "timeout")
  let verbosity ← natural? entries "verbosity"
  return {
    remoteAddr := addr, remoteUser, port, password, passwordPrompt, privateKeyFile, proxyCommand,
    sshArgs, sshCommonArgs, sshExtraArgs, publickeyAcceptedAlgorithms, hostkeys, configFile, knownHostsFile
    hostKeyChecking := hostKeyChecking.getD d.hostKeyChecking
    hostKeyAutoAdd := hostKeyAutoAdd.getD d.hostKeyAutoAdd
    lookForKeys := lookForKeys.getD d.lookForKeys
    pty := pty.getD d.pty
    persistent := persistent.getD d.persistent
    timeout := timeout.getD d.timeout
    verbosity := (verbosity.map (min · 255)).getD d.verbosity }

def effectivePort (o : Options) : Nat := o.port.getD defaultPort

def resolvedUser (o : Options) (env : Environment) : Except Failure String :=
  match o.remoteUser, env.user? with
  | some u, local? =>
    if !u.isEmpty then .ok u
    else match local? with
      | some v => .ok v
      | none => .error (.config "remote_user is not set and no local user found")
  | none, some v => .ok v
  | none, none => .error (.config "remote_user is not set and no local user found")

end Options
end RemoteExec

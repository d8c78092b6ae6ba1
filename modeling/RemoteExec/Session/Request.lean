import RemoteExec.Bytes
import RemoteExec.Duration
import RemoteExec.HostKeys.Policy

namespace RemoteExec

structure Request where
  -- In lower case.
  host : String
  port : Nat
  user : String
  lookForKeys : Bool
  checking : Bool
  password : Option String
  passwordPrompt : Option String
  privateKey : Option Bytes
  timeout : Duration
  proxyCommand : Option String
  configFile : Option String
  publickeyAcceptedAlgorithms : Option String
  hostkeys : Option String
  knownHostsFile : Option String
  verbose : Bool
  policy : KeyPolicy
deriving DecidableEq, Inhabited

namespace Request

def inspectText (s : Option String) : String := Text.inspectOption (s.map Text.inspect)

def inspect (r : Request) : String :=
  Text.inspectRecord "ConnectRequest"
    [("host", Text.inspect r.host), ("port", toString r.port), ("user", Text.inspect r.user),
      ("look_for_keys", Text.inspectBool r.lookForKeys), ("host_key_checking", Text.inspectBool r.checking),
      ("password", inspectText (r.password.map fun _ => "<redacted>")),
      ("password_prompt", inspectText r.passwordPrompt),
      ("private_key", inspectText (r.privateKey.map fun _ => "<redacted>")),
      ("timeout", r.timeout.inspect), ("proxy_command", inspectText r.proxyCommand),
      ("config_file", inspectText r.configFile),
      ("publickey_accepted_algorithms", inspectText r.publickeyAcceptedAlgorithms),
      ("hostkeys", inspectText r.hostkeys), ("known_hosts_file", inspectText r.knownHostsFile),
      ("verbose", Text.inspectBool r.verbose)]

def detail (r : Request) (text : String) : Event := ⟨if r.verbose then .info else .debug, text⟩

end Request
end RemoteExec

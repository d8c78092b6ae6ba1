import RemoteExec.Options

namespace RemoteExec.Options

def optional (s : Option String) : Json := (s.map Json.str).getD .null

def span (d : Duration) : Json := .obj [("secs", .num (.natural d.secs)), ("nanos", .num (.natural d.nanos))]

def overview (o : Options) : List (String × Json) :=
  [("remote_user", optional o.remoteUser), ("port", (o.port.map fun n => Json.num (.natural n)).getD .null),
    ("password", optional o.password), ("password_prompt", optional o.passwordPrompt),
    ("private_key_file", optional o.privateKeyFile), ("proxy_command", optional o.proxyCommand),
    ("ssh_args", optional o.sshArgs), ("ssh_common_args", optional o.sshCommonArgs),
    ("ssh_extra_args", optional o.sshExtraArgs), ("host_key_checking", .bool o.hostKeyChecking),
    ("host_key_auto_add", .bool o.hostKeyAutoAdd), ("look_for_keys", .bool o.lookForKeys), ("pty", .bool o.pty),
    ("publickey_accepted_algorithms", optional o.publickeyAcceptedAlgorithms), ("hostkeys", optional o.hostkeys),
    ("config_file", optional o.configFile), ("known_hosts_file", optional o.knownHostsFile),
    ("use_persistent_connections", .bool o.persistent), ("timeout", span o.timeout),
    ("verbosity", .num (.natural o.verbosity)), ("effective_port", .num (.natural o.effectivePort))]

end RemoteExec.Options

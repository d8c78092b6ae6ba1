namespace RemoteExec.CommandLine

inductive ValueKind where
  | text
  | path
  | port
  | seconds
deriving DecidableEq

inductive OptionForm where
  | flag
  | count
  | value (kind : ValueKind)
  -- Takes any text, also one that looks like an option.
  | anyValue
deriving DecidableEq

structure OptionSpec where
  name : String
  letter : Option Char
  envName : Option String
  form : OptionForm
  secret : Bool
  default : Option String
  about : String

structure CommandSpec where
  name : String
  about : String
  options : List OptionSpec
  arguments : List (String × ValueKind × String)
  subcommands : List String
  hasVersion : Bool

def option (name envName : String) (form : OptionForm) (about : String) : OptionSpec :=
  ⟨name, none, some ("SSH_TRANSPORT_" ++ envName), form, false, none, about⟩

def options : List OptionSpec :=
  [option "host" "HOST" (.value .text) "Remote host to connect to",
    option "port" "PORT" (.value .port) "SSH port [default: 22]",
    option "user" "USER" (.value .text) "Remote user (defaults to the local user)",
    { option "password" "PASSWORD" (.value .text) "Login password, also used as the private key passphrase" with
      secret := true },
    option "password-prompt" "PASSWORD_PROMPT" (.value .text)
      "Keyboard-interactive prompt that should receive the password",
    option "key" "KEY" (.value .path) "Path to SSH private key file",
    option "proxy-command" "PROXY_COMMAND" (.value .text) "Proxy command; %h, %p and %r are replaced",
    option "ssh-common-args" "SSH_COMMON_ARGS" .anyValue
      "Extra ssh arguments scanned for ProxyCommand (deprecated)",
    option "ssh-extra-args" "SSH_EXTRA_ARGS" .anyValue
      "Extra ssh arguments scanned for ProxyCommand (deprecated)",
    option "no-host-key-checking" "NO_HOST_KEY_CHECKING" .flag "Accept any host key without checking",
    option "host-key-auto-add" "HOST_KEY_AUTO_ADD" .flag "Accept unknown host keys without asking",
    option "no-look-for-keys" "NO_LOOK_FOR_KEYS" .flag "Do not try keys from ~/.ssh",
    option "no-pty" "NO_PTY" .flag "Never request a pseudo-terminal",
    option "persistent" "PERSISTENT" .flag
      "Treat the connection as persistent (no interactive host key prompts)",
    option "timeout" "TIMEOUT" (.value .seconds) "Connect and escalation timeout in seconds [default: 10]",
    option "config-file" "CONFIG_FILE" (.value .path) "Alternate OpenSSH client config file",
    option "hostkeys" "HOSTKEYS" (.value .text) "Preferred host key algorithms, comma separated",
    option "publickey-algorithms" "PUBLICKEY_ALGORITHMS" (.value .text)
      "Accepted public key algorithms, comma separated",
    option "known-hosts" "KNOWN_HOSTS" (.value .path) "Known hosts file [default: ~/.ssh/known_hosts]",
    option "options-file" "OPTIONS_FILE" (.value .path)
      "JSON object of connection options; flags override its values",
    ⟨"verbose", some 'v', none, .count, false, none,
      "Increase verbosity (-v, -vv, ...). Above 3 the SSH library logs too"⟩,
    ⟨"become", none, none, .flag, false, none, "Run the command through sudo"⟩,
    { option "become-user" "BECOME_USER" (.value .text) "User to become" with default := some "root" },
    { option "become-password" "BECOME_PASSWORD" (.value .text) "sudo password" with secret := true },
    ⟨"json", none, none, .flag, false, none, "Print a JSON report instead of raw output"⟩]

def protocolOption : OptionSpec :=
  ⟨"proto", none, none, .value .text, false, some "sftp", "Transfer protocol: sftp or scp"⟩

def top : CommandSpec :=
  ⟨"ssh-transport", "Run commands and copy files on remote hosts over SSH", options, [],
    ["exec", "put", "fetch", "help"], true⟩

def exec : CommandSpec :=
  ⟨"exec", "Execute a command on the remote host", [],
    [("command", .text, "Command line, passed to the remote shell as is")], [], false⟩

def put : CommandSpec :=
  ⟨"put", "Copy a local file to the remote host", [protocolOption],
    [("local", .path, ""), ("remote", .text, "")], [], false⟩

def fetch : CommandSpec :=
  ⟨"fetch", "Copy a remote file to the local host", [protocolOption],
    [("remote", .text, ""), ("local", .path, "")], [], false⟩

def commands : List CommandSpec := [exec, put, fetch]

end RemoteExec.CommandLine

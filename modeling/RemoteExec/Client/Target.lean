import RemoteExec.ClientConfig
import RemoteExec.Options
import RemoteExec.Proxy.Placeholders
import RemoteExec.Session.Request

namespace RemoteExec

structure Target where
  host : String
  port : Nat
  identityFiles : List String
  proxyCommand : Option String
deriving DecidableEq, Inhabited

namespace Target

-- The request's own values win; the file's port counts only on the standard port.
def apply (r : Request) (s : HostSettings) : Target :=
  let host := (s.hostname.map String.lowercase).getD r.host
  let port := if r.port = Options.defaultPort then s.port.getD r.port else r.port
  { host, port
    identityFiles := s.identityFiles
    proxyCommand := r.proxyCommand <|> s.proxyCommand.map fun c => Proxy.substitute c ⟨host, port, r.user⟩ }

def resolve (env : Environment) (fs : FileSystem) (r : Request) : Except Failure Target × List Event :=
  match r.configFile with
  | none => (.ok ⟨r.host, r.port, [], r.proxyCommand⟩, [])
  | some path =>
    match ClientConfig.load fs path with
    | (.error e, events) => (.error e, events)
    | (.ok config, events) =>
      let settings := ClientConfig.resolve env config r.host
      (.ok (apply r settings),
        events ++ [r.detail ("SSH config settings for " ++ r.host ++ ": " ++ settings.inspect)])

def defaultIdentities (env : Environment) : List String :=
  match env.home? with
  | none => []
  | some home => ["id_ed25519", "id_ecdsa", "id_rsa"].map fun n => Path.join (Path.join home ".ssh") n

end Target
end RemoteExec

import RemoteExec.Client.Authentication
import RemoteExec.Client.Negotiation
import RemoteExec.Client.State

namespace RemoteExec.Client

variable {π : Type}

def letThrough (gate : Gate) (key : PublicKey) : Op (State π) Gate := do
  let (outcome, gate, operator, events) := gate.check key (← get).operator
  modify fun o => { o.tell events with operator := operator }
  ofExcept (outcome.map fun _ => gate)

def knownHosts (env : Environment) (r : Request) : Op (State π) KnownHosts := do
  let path ← match r.knownHostsFile <|> KnownHosts.defaultPath? env with
    | some path => pure path
    | none => throw (.config "cannot locate the home directory")
  let (store, events) := KnownHosts.load (← get).files path
  tellAll events
  ofExcept store

def reach (server : Server π) (target : Target) (timeout : Duration) : Op (State π) LinkId := do
  if let some command := target.proxyCommand then
    Op.tell .debug ("Spawning proxy command: " ++ command)
  match ← atServer (server.connect target timeout) with
  | .ok link => return link
  | .error (.failed why) => throw (.connection why)
  | .error .timeout => do
    Op.tell .error ("SSH connection timeout after " ++ toString timeout.secs ++ "s")
    throw (.connection ("Connection timeout after " ++ toString timeout.secs ++ "s"))

def presented (server : Server π) (accepted : List String) : Op (State π) PublicKey := do
  let keys := server.hostKeys (← state).server
  ofExcept ((Negotiation.choose accepted keys).mapError Failure.connection)

def logIn (server : Server π) (r : Request) (link : LinkId) (paths : List String) : Op (State π) Unit := do
  let o ← get
  let (outcome, login) := Authentication.run (server.authenticate link) r o.files paths ⟨o.lib.server, [], []⟩
  modify fun o => { o.tell login.log with lib := { o.lib with server := login.server } }
  ofExcept outcome

def settle (server : Server π) (env : Environment) (r : Request) (target : Target) (gate : Gate)
    (accepted : List String) (link : LinkId) : Op (State π) Gate := do
  let gate ← letThrough gate (← presented server accepted)
  logIn server r link (target.identityFiles ++ Target.defaultIdentities env)
  return gate

def establish (server : Server π) (env : Environment) (r : Request) : Op (State π) SessionId := do
  let (target, events) := Target.resolve env (← get).files r
  tellAll events
  let target ← ofExcept target
  Op.tell .info ("Connecting to SSH server " ++ target.host ++ ":" ++ toString target.port ++
    (if target.proxyCommand.isSome then " via proxy command" else ""))
  let store ← knownHosts env r
  let (accepted, events) := KeyAlgorithm.hostKeys r.hostkeys
  tellAll events
  let link ← reach server target r.timeout
  match ← Op.attempt (settle server env r target ⟨target.host, target.port, r.checking, r.policy, store, []⟩ accepted link) with
  | .error e => do
    let _ ← atServer (server.disconnect link)
    throw e
  | .ok gate => do
    Op.tell .info ("Successfully connected to " ++ r.user ++ "@" ++ target.host ++ ":" ++ toString target.port)
    let id := (← state).sessions.length
    change fun s => { s with sessions := s.sessions ++ [⟨link, gate, false, true⟩] }
    return id

def setSession (id : SessionId) (s : Session) : Op (State π) Unit :=
  change fun t => { t with sessions := t.sessions.set id s }

-- Only the first call does anything. The link outlives a failure to save.
def closeSession (server : Server π) (id : SessionId) : Op (State π) Unit := do
  match (← state).sessions[id]? with
  | none => return
  | some s =>
    if s.closing then return
    let (saved, files, closing, events) := s.save (← get).files
    modify fun o => { o.tell events with files := files }
    setSession id closing
    ofExcept saved
    match ← atServer (server.disconnect s.link) with
    | .error why => throw (.connection why)
    | .ok () =>
      setSession id { closing with linked := false }
      Op.tell .debug "SSH session disconnected"

end RemoteExec.Client

import RemoteExec.Escalation
import RemoteExec.Identity
import RemoteExec.Options
import RemoteExec.Proxy.Command
import RemoteExec.Registry.Basic
import RemoteExec.Session.Library

namespace RemoteExec

inductive ConnectionState where
  | disconnected
  | connecting
  | connected
  | closed
deriving DecidableEq, Inhabited

def ConnectionState.name : ConnectionState → String
  | .disconnected => "Disconnected"
  | .connecting => "Connecting"
  | .connected => "Connected"
  | .closed => "Closed"

-- Connections share what is registered under their seat: their group and whom they reach.
structure Seat where
  group : Nat
  identity : Identity
deriving DecidableEq, Inhabited

structure Cache where
  sessions : Registry Seat SessionId
  sftp : Registry Seat SftpId
deriving Inhabited

namespace Cache

def empty : Cache := ⟨Registry.empty, Registry.empty⟩

def inspect (c : Cache) (group : Nat) : String :=
  Text.inspectRecord "ConnectionCache"
    [("sessions", toString (c.sessions.sizeOf (·.group == group))), ("sftp", toString (c.sftp.sizeOf (·.group == group)))]

end Cache

structure Held where
  session : Option SessionId
  channel : Option ChannelId
  sftp : Option SftpId
  state : ConnectionState
deriving DecidableEq, Inhabited

def Held.nothing : Held := ⟨none, none, none, .disconnected⟩

structure Connection where
  options : Options
  seat : Seat
  escalation : Option Escalation
  forcePersistence : Bool
  hasLibrary : Bool
  environment : Environment

structure Scene (σ : Type) where
  outside : Outside σ
  cache : Cache
  held : Held

abbrev Act (σ : Type) := ExceptT Failure (StateM (Scene σ))

namespace Act

variable {σ α : Type}

def ofOp (op : Op σ α) : Act σ α :=
  ExceptT.mk fun s =>
    let (outcome, outside) := op s.outside
    (outcome, { s with outside := outside })

def attempt (act : Act σ α) : Act σ (Except Failure α) :=
  ExceptT.mk fun s =>
    let (outcome, s) := act s
    (.ok outcome, s)

def tell (level : Level) (text : String) : Act σ Unit := ofOp (Op.tell level text)

def hold (change : Held → Held) : Act σ Unit := modify fun s => { s with held := change s.held }

def held : Act σ Held := return (← get).held

def setState (state : ConnectionState) : Act σ Unit := hold fun h => { h with state := state }

-- The value of a seat in a registry of the cache, made by `create` if there is none. A failed
-- creation leaves no entry behind.
def obtain (registry : Cache → Registry Seat α) (update : Cache → Registry Seat α → Cache) (seat : Seat)
    (create : Act σ α) : Act σ α :=
  ExceptT.mk fun s =>
    let (cell, r) := (registry s.cache).enter seat
    let s := { s with cache := update s.cache r }
    match r.value? cell with
    | some v => (.ok v, s)
    | none =>
      match create s with
      | (.ok v, s) => (.ok v, { s with cache := update s.cache ((registry s.cache).fill cell v) })
      | (.error e, s) => (.error e, { s with cache := update s.cache ((registry s.cache).abandon seat cell) })

def obtainSession (seat : Seat) (create : Act σ SessionId) : Act σ SessionId :=
  obtain Cache.sessions (fun c r => { c with sessions := r }) seat create

def obtainSftp (seat : Seat) (create : Act σ SftpId) : Act σ SftpId :=
  obtain Cache.sftp (fun c r => { c with sftp := r }) seat create

end Act

namespace Connection

variable {σ : Type}

def make (options : Options) (group : Nat) (environment : Environment) : Connection where
  options := options
  seat := ⟨group, ⟨options.remoteAddr, ((options.resolvedUser environment).toOption).getD ""⟩⟩
  escalation := none
  forcePersistence := false
  hasLibrary := true
  environment := environment

def identity (c : Connection) : Identity := c.seat.identity

def expandHome (env : Environment) (path : String) : String :=
  match Path.pieces path, env.home? with
  | "~" :: rest, some home =>
    let silent := fun p => p == "" || p == "."
    Path.join home ("/".intercalate ((rest.dropWhile silent).reverse.dropWhile silent).reverse)
  | _, _ => path

def readPrivateKey (c : Connection) (path : String) : Op σ Bytes := do
  let expanded := expandHome c.environment path
  Op.tell .debug ("Reading private key from " ++ expanded)
  match (← get).files.read expanded with
  | .ok b => return b
  | .error e => throw (if e.kind = .notFound then .fileNotFound expanded else .io e)

def policy (c : Connection) : KeyPolicy :=
  ⟨c.options.hostKeyChecking, c.options.hostKeyAutoAdd, c.options.persistent || c.forcePersistence⟩

def user (c : Connection) : Except Failure String :=
  if c.identity.user.isEmpty then c.options.resolvedUser c.environment else .ok c.identity.user

def prepare (lib : Library σ) (c : Connection) : Op σ Request := do
  unless c.hasLibrary do
    throw (.missingDependency "no SSH library is available; rebuild with the \x60russh\x60 feature")
  Op.tell .info ("USING " ++ lib.name ++ " VERSION " ++ lib.version.text)
  let user ← liftExcept c.user
  let o := c.options
  let port := o.effectivePort
  Op.tell .info ("ESTABLISH SSH CONNECTION FOR USER: " ++ user ++ " on PORT " ++ toString port ++ " TO " ++ o.remoteAddr)
  let (proxy, events) := Proxy.resolve o ⟨o.remoteAddr, port, user⟩
  modify fun s => s.tell events
  let key ← match o.privateKeyFile with
    | some path => some <$> c.readPrivateKey path
    | none => pure none
  if o.passwordPrompt.isSome && !lib.version.atLeast Version.passwordPrompt then
    throw (.missingDependency ("Configuring password prompt is not supported in " ++ lib.name ++ " version " ++
      lib.version.text ++ ". Please upgrade to " ++ lib.name ++ " " ++ Version.passwordPrompt.text ++ " or newer."))
  let request : Request := {
    host := o.remoteAddr.lowercase, port, user
    lookForKeys := o.lookForKeys, checking := o.hostKeyChecking, password := o.password
    passwordPrompt := o.passwordPrompt, privateKey := key, timeout := o.timeout, proxyCommand := proxy
    configFile := o.configFile, publickeyAcceptedAlgorithms := o.publickeyAcceptedAlgorithms
    hostkeys := o.hostkeys, knownHostsFile := o.knownHostsFile, verbose := decide (3 < o.verbosity), policy := c.policy }
  Op.tell .debug ("Connect request: " ++ request.inspect)
  return request
where
  liftExcept {α : Type} (e : Except Failure α) : Op σ α :=
    match e with
    | .ok a => pure a
    | .error e => throw e

-- A library's failure as a failure to connect. Rejected keys and missing things keep their kind.
def connectFailure : Failure → Failure
  | .keyRejected r => .keyRejected r
  | .missingDependency d => .missingDependency d
  | .fileNotFound p => .fileNotFound p
  | .connection d => .connection ("ssh connection failed: " ++ d)
  | e => .connection e.message

def complete (lib : Library σ) (c : Connection) (r : Request) : Op σ SessionId := do
  match ← Op.attempt (lib.establish r) with
  | .ok session =>
    Op.tell .info ("ssh connection is OK: " ++ c.identity.text)
    return session
  | .error e =>
    Op.tell .error ("SSH connection to " ++ c.options.remoteAddr ++ " failed: " ++ e.message)
    throw (connectFailure e)

def begin (lib : Library σ) (c : Connection) : Op σ Request := do
  let r ← c.prepare lib
  ExceptT.lift (lib.dial r)
  return r

def connectUncached (lib : Library σ) (c : Connection) : Op σ SessionId := do
  let r ← c.begin lib
  c.complete lib r

def evictSessionIf (c : Connection) (stale : σ → SessionId → Bool) : Act σ Bool := do
  let s ← get
  match s.cache.sessions.removeIf c.seat (stale s.outside.lib) with
  | (none, _) => return false
  | (some _, sessions) =>
    Act.tell .debug ("Evicting stale session " ++ c.identity.text ++ " from connection cache")
    modify fun s => { s with cache := ⟨sessions, (s.cache.sftp.remove c.seat).2⟩ }
    return true

def evictClosed (lib : Library σ) (c : Connection) : Act σ Unit := do
  if ← c.evictSessionIf lib.isClosed then
    Act.tell .warn ("Cached session for " ++ c.identity.text ++ " is closed, reconnecting")

def conclude (outcome : Except Failure SessionId) : Act σ Unit :=
  match outcome with
  | .ok session => Act.hold fun h => { h with session := some session, state := .connected }
  | .error _ => Act.setState .disconnected

def approach (lib : Library σ) (c : Connection) : Act σ Unit := do
  c.evictClosed lib
  Act.setState .connecting

def connect (lib : Library σ) (c : Connection) : Act σ SessionId := do
  c.approach lib
  match ← Act.attempt (Act.obtainSession c.seat (Act.ofOp (c.connectUncached lib))) with
  | .ok session =>
    conclude (.ok session)
    return session
  | .error e =>
    conclude (.error e)
    throw e

def ensureConnected (lib : Library σ) (c : Connection) : Act σ SessionId := do
  let s ← get
  match s.held.session with
  | some session => if lib.isClosed s.outside.lib session then c.connect lib else return session
  | none => c.connect lib

def connectSftp (lib : Library σ) (c : Connection) : Act σ SftpId :=
  Act.obtainSftp c.seat do
    let session ← c.ensureConnected lib
    Act.ofOp (lib.openSftp session)

def evict (c : Connection) : Act σ Unit := do
  Act.tell .debug ("Evicting " ++ c.identity.text ++ " from connection cache")
  modify fun s => { s with cache := ⟨(s.cache.sessions.remove c.seat).2, (s.cache.sftp.remove c.seat).2⟩ }

def release (take : Held → Option Nat × Held) (close : Nat → Op σ Unit) : Act σ Unit := do
  let (thing, held) := take (← Act.held)
  Act.hold fun _ => held
  match thing with
  | some id => Act.ofOp (close id)
  | none => return

def close (lib : Library σ) (c : Connection) : Act σ Unit := do
  c.evict
  release (fun h => (h.sftp, { h with sftp := none })) lib.closeSftp
  release (fun h => (h.channel, { h with channel := none })) lib.closeChannel
  release (fun h => (h.session, { h with session := none })) lib.closeSession
  Act.setState .closed
  Act.tell .info ("SSH connection to " ++ c.identity.text ++ " closed")

def reset (lib : Library σ) (c : Connection) : Act σ SessionId := do
  c.close lib
  Act.setState .disconnected
  c.connect lib

def inspect (lib : Library σ) (c : Connection) (h : Held) : String :=
  Text.inspectRecord "SshConnection"
    [("identity", c.identity.inspect), ("port", toString c.options.effectivePort),
      ("backend", Text.inspectOption (if c.hasLibrary then some (Text.inspect lib.name) else none)),
      ("state", h.state.name)]

end Connection
end RemoteExec

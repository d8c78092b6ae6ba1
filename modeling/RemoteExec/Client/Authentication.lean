import RemoteExec.Client.Prompt
import RemoteExec.Client.Server
import RemoteExec.Keys.PrivateKey

namespace RemoteExec.Authentication

def maxRounds : Nat := 5

structure Login (π : Type) where
  server : π
  sent : List AuthRequest
  log : List Event

-- How a server in state `π` responds; a text if the link fails.
abbrev Responder (π : Type) := AuthRequest → StateM π (Except String Verdict)

abbrev Attempt (π : Type) := ExceptT Failure (StateM (Login π))

variable {π : Type}

def tell (e : Event) : Attempt π Unit := modify fun l => { l with log := l.log ++ [e] }

def info (text : String) : Attempt π Unit := tell ⟨.info, text⟩

def ask (respond : Responder π) (request : AuthRequest) : Attempt π Verdict :=
  ExceptT.mk fun l =>
    let (outcome, server) := respond request l.server
    (outcome.mapError Failure.authentication, { l with server := server, sent := l.sent ++ [request] })

def succeeds (respond : Responder π) (request : AuthRequest) : Attempt π Bool := do
  return (← ask respond request) == Verdict.success

def heldBack (r : Request) (key : PublicKey) : Option String :=
  if KeyAlgorithm.isRsa key.keyType then
    r.publickeyAcceptedAlgorithms.filter fun list => (RsaSignature.ofList? list).isNone
  else none

def tryKey (respond : Responder π) (r : Request) (key : PublicKey) : Attempt π Bool := do
  match heldBack r key with
  | some list => do
    tell (r.detail ("RSA keys not accepted by '" ++ list ++ "', skipping"))
    return false
  | none => do
    tell (r.detail ("Attempting " ++ key.keyType ++ " key authentication for user '" ++ r.user ++ "'"))
    succeeds respond (.key r.user key)

def loadIdentity (fs : FileSystem) (path : String) (passphrase : Option String) : Option PublicKey × List Event :=
  if fs.exists? path then
    let outcome := match fs.readText path with
      | .error e => Except.error e.message
      | .ok text => (PrivateKey.read text passphrase).mapError KeyFault.message
    match outcome with
    | .ok key => (some key, [])
    | .error why => (none, [⟨.debug, "Skipping key " ++ path ++ ": " ++ why⟩])
  else (none, [])

def explicitKey (respond : Responder π) (r : Request) : Attempt π Bool := do
  match r.privateKey with
  | none => return false
  | some content =>
    match PrivateKey.read content.lossy r.password with
    | .error e => throw (.sshKey ("Failed to parse private key: " ++ e.message))
    | .ok key =>
      if ← tryKey respond r key then do
        info "Key authentication successful"
        return true
      else return false

def foundKeys (respond : Responder π) (r : Request) (fs : FileSystem) : List String → Attempt π Bool
  | [] => return false
  | path :: rest => do
    let (key?, events) := loadIdentity fs path r.password
    modify fun l => { l with log := l.log ++ events }
    match key? with
    | none => foundKeys respond r fs rest
    | some key =>
      if ← tryKey respond r key then do
        info ("Key authentication successful with " ++ path)
        return true
      else foundKeys respond r fs rest

def answersTo (expected : Option String) (password : String) (prompts : List String) : List String :=
  prompts.map fun p => if asksPassword p expected then password else ""

def answerRounds (respond : Responder π) (r : Request) (password : String) : Nat → Verdict → Attempt π Bool
  | 0, _ => do
    tell ⟨.warn, "Giving up keyboard-interactive after " ++ toString maxRounds ++ " rounds"⟩
    return false
  | _ + 1, .success => return true
  | _ + 1, .failure => return false
  | n + 1, .questions prompts => do
    tell (r.detail ("Keyboard-interactive round with " ++ toString prompts.length ++ " prompts"))
    let next ← ask respond (.answers (answersTo r.passwordPrompt password prompts))
    answerRounds respond r password n next

def interactive (respond : Responder π) (r : Request) (password : String) : Attempt π Bool := do
  answerRounds respond r password maxRounds (← ask respond (.interactive r.user))

def withPassword (respond : Responder π) (r : Request) : Attempt π Bool := do
  match r.password with
  | none => return false
  | some password => do
    tell (r.detail ("Attempting password authentication for user '" ++ r.user ++ "'"))
    if ← succeeds respond (.password r.user password) then do
      info "Password authentication successful"
      return true
    else if ← interactive respond r password then do
      info "Keyboard-interactive authentication successful"
      return true
    else return false

def run (respond : Responder π) (r : Request) (fs : FileSystem) (paths : List String) : Attempt π Unit := do
  if ← explicitKey respond r then return
  if r.lookForKeys then
    if ← foundKeys respond r fs paths then return
  if ← withPassword respond r then return
  throw (.authentication ("all authentication methods failed for user '" ++ r.user ++ "'"))

end RemoteExec.Authentication

import RemoteExec.Session.Library

namespace RemoteExec.Memory

inductive Chunk where
  | data (b : Bytes)
  | failure (e : Failure)
  | delayed (milliseconds : Nat) (b : Bytes)

structure Script where
  chunks : List Chunk
  -- After the chunks nothing comes any more, not even an end.
  hang : Bool
  ptyFailure : Option Failure
  startFailure : Option Failure
  sendFailure : Option Failure
  execFailure : Option Failure
  finishFailure : Option Failure
  result : CommandResult
  hangOnFinish : Bool
  exit : ChannelExit

def Script.silent : Script :=
  ⟨[], false, none, none, none, none, none, ⟨0, [], []⟩, false, ⟨none, [], []⟩⟩

structure Channel where
  script : Script
  pty : Bool
  started : Option Bytes
  sent : List Bytes
  executed : List String
  closed : Bool

structure Settings where
  connectFailure : Option Failure
  channelFailure : Option Failure
  sftpFailure : Option Failure
  scpFailure : Option Failure
  sftpCloseFailure : Option Failure
  channelCloseFailure : Option Failure
  sessionCloseFailure : Option Failure
  hostKey : Option HostKey
  script : Script

def Settings.harmless : Settings := ⟨none, none, none, none, none, none, none, none, Script.silent⟩

structure State where
  settings : Settings
  connects : Nat
  sessions : List Bool
  channels : List Channel
  channelCloses : Nat
  sftpOpens : Nat
  sftpCloses : Nat
  scpOpens : Nat
  sessionCloses : Nat
  remote : List (String × Bytes)
  request : Option (Request × Nat)

def State.initial (settings : Settings) (remote : List (String × Bytes)) : State :=
  ⟨settings, 0, [], [], 0, 0, 0, 0, 0, remote, none⟩

def lib : Op State State := return (← get).lib

def change (f : State → State) : Op State Unit := modify fun o => { o with lib := f o.lib }

def failWith (e? : Option Failure) : Op State Unit :=
  match e? with
  | some e => throw e
  | none => return

def verifyKey (r : Request) : Op State Nat := do
  match (← lib).settings.hostKey with
  | none => return 0
  | some key =>
    let (outcome, operator, events) := r.policy.verify key (← get).operator
    modify fun o => { o.tell events with operator := operator }
    match outcome with
    | .ok () => return 1
    | .error e => throw e

def establish (r : Request) : Op State SessionId := do
  failWith (← lib).settings.connectFailure
  let trusted ← verifyKey r
  let id := (← lib).sessions.length
  change fun s => { s with request := some (r, trusted), sessions := s.sessions ++ [false] }
  return id

def isClosed (s : State) (id : SessionId) : Bool := (s.sessions[id]?).getD true

def newChannel : Op State ChannelId := do
  let s ← lib
  failWith s.settings.channelFailure
  change fun s => { s with channels := s.channels ++ [⟨s.settings.script, false, none, [], [], false⟩] }
  return s.channels.length

def openSftp : Op State SftpId := do
  let s ← lib
  failWith s.settings.sftpFailure
  change fun s => { s with sftpOpens := s.sftpOpens + 1 }
  return s.sftpOpens

def openScp : Op State ScpId := do
  let s ← lib
  failWith s.settings.scpFailure
  change fun s => { s with scpOpens := s.scpOpens + 1 }
  return s.scpOpens

def closeSession (id : SessionId) : Op State Unit := do
  failWith (← lib).settings.sessionCloseFailure
  change fun s => { s with sessionCloses := s.sessionCloses + 1, sessions := s.sessions.set id true }

def script (id : ChannelId) : Op State Script := do
  return (((← lib).channels[id]?).map Channel.script).getD Script.silent

def onChannel (id : ChannelId) (f : Channel → Channel) : Op State Unit :=
  change fun s => { s with channels := s.channels.modify id f }

def requestPty (id : ChannelId) : Op State Unit := do
  failWith (← script id).ptyFailure
  onChannel id fun c => { c with pty := true }

def start (id : ChannelId) (command : Bytes) : Op State Unit := do
  failWith (← script id).startFailure
  onChannel id fun c => { c with started := some command }

def send (id : ChannelId) (data : Bytes) : Op State Unit := do
  failWith (← script id).sendFailure
  onChannel id fun c => { c with sent := c.sent ++ [data] }

def setChunks (id : ChannelId) (chunks : List Chunk) : Op State Unit :=
  onChannel id fun c => { c with script := { c.script with chunks := chunks } }

def give (id : ChannelId) (limit : Nat) (b : Bytes) (rest : List Chunk) : Op State (Option Bytes) := do
  setChunks id (if (b.drop limit).isEmpty then rest else .data (b.drop limit) :: rest)
  return some (b.take limit)

def milliseconds (d : Duration) : Nat := (d.totalNanos + 999999) / 1000000

def receive (id : ChannelId) (timeout : Duration) (limit : Nat) : Op State (Option Bytes) := do
  let s ← script id
  match s.chunks with
  | [] => return if s.hang then none else some []
  | .data b :: rest => give id limit b rest
  | .failure e :: rest => do
    setChunks id rest
    throw e
  | .delayed wait b :: rest => if wait ≤ milliseconds timeout then give id limit b rest else return none

def exec (id : ChannelId) (command : String) : Op State CommandResult := do
  let s ← script id
  onChannel id fun c => { c with executed := c.executed ++ [command] }
  failWith s.execFailure
  return s.result

def finish (id : ChannelId) (_timeout : Duration) : Op State (Option ChannelExit) := do
  let s ← script id
  if s.hangOnFinish then return none
  failWith s.finishFailure
  return some s.exit

def closeChannel (id : ChannelId) : Op State Unit := do
  change fun s => { s with channelCloses := s.channelCloses + 1 }
  failWith (← lib).settings.channelCloseFailure
  onChannel id fun c => { c with closed := true }

def Chunk.size : Chunk → Nat
  | .data b => b.length
  | .failure _ => 0
  | .delayed _ b => b.length

def pieces (s : State) (id : ChannelId) : Nat :=
  match s.channels[id]? with
  | some c => c.script.chunks.foldr (fun k n => k.size + 1 + n) 0
  | none => 0

def ofFiles (e : Except IoError α) : IoOp State α :=
  match e with
  | .ok a => pure a
  | .error e => throw e

def store (name : String) (content : Bytes) (files : List (String × Bytes)) : List (String × Bytes) :=
  (name, content) :: files.filter fun f => f.1 != name

def upload (source target : String) : IoOp State Unit := do
  let content ← ofFiles ((← get).files.read source)
  modify fun o => { o with lib := { o.lib with remote := store target content o.lib.remote } }

def remoteFile? (s : State) (name : String) : Option Bytes := (s.remote.find? fun f => f.1 == name).map (·.2)

def download (source target missing : String) : IoOp State Unit := do
  let o ← get
  match remoteFile? o.lib source with
  | none => throw (.ofText missing)
  | some content =>
    let files ← ofFiles (o.files.write target content)
    modify fun o => { o with files := files }

def closeSftp : Op State Unit := do
  change fun s => { s with sftpCloses := s.sftpCloses + 1 }
  failWith (← lib).settings.sftpCloseFailure

def dropSessions (s : State) : State := { s with sessions := s.sessions.map fun _ => true }

def library (name : String) (version : Version) : Library State where
  name := name
  version := version
  dial := fun _ => modify fun o => { o with lib := { o.lib with connects := o.lib.connects + 1 } }
  establish := establish
  isClosed := isClosed
  newChannel := fun _ => newChannel
  openSftp := fun _ => openSftp
  openScp := fun _ => openScp
  closeSession := closeSession
  requestPty := requestPty
  start := start
  send := send
  receive := receive
  exec := exec
  finish := finish
  closeChannel := closeChannel
  pieces := pieces
  sftpPut := fun _ => upload
  sftpGet := fun _ source target => download source target "No such file"
  closeSftp := fun _ => closeSftp
  scpPut := fun _ => upload
  scpGet := fun _ source target => download source target ("scp: " ++ source ++ ": No such file or directory")

end RemoteExec.Memory

import RemoteExec.Client.State
import RemoteExec.Scp.Transfer
import RemoteExec.Text.ShellWords

namespace RemoteExec.Client

variable {π α : Type}

def openFiles (server : Server π) (session : SessionId) : Op (State π) SftpId := do
  let line ← openLine server session
  atServer (server.startFiles line)
  Op.tell .debug "SFTP subsystem started"
  let id := (← state).fileHandles.length
  change fun s => { s with fileHandles := s.fileHandles ++ [⟨line.link, true⟩] }
  return id

def closeFiles (id : SftpId) : Op (State π) Unit :=
  change fun s => { s with fileHandles := s.fileHandles.modify id fun h => { h with isOpen := false } }

def ofFiles (e : Except IoError α) : IoOp (State π) α :=
  match e with
  | .ok a => pure a
  | .error e => throw e

def atFiles (act : StateM π (Except String α)) : IoOp (State π) α :=
  ExceptT.mk fun o =>
    let (outcome, server) := act o.lib.server
    (outcome.mapError IoError.ofText, { o with lib := { o.lib with server := server } })

def tellIo (event : Event) : IoOp (State π) Unit := modify fun o => o.tell [event]

def usable (id : SftpId) : IoOp (State π) Unit := do
  let s := (← get).lib
  match s.fileHandles[id]? with
  | none => throw ⟨.notConnected, "SFTP session is closed"⟩
  | some h =>
    unless h.isOpen do throw ⟨.notConnected, "SFTP session is closed"⟩
    unless s.isLinked h.link do throw (.ofText "Timeout")

-- The remote file is made before the local one is read.
def putFile (server : Server π) (id : SftpId) (source target : String) : IoOp (State π) Unit := do
  usable id
  let _ ← ofFiles ((← get).files.node source)
  atFiles (server.createFile target)
  let content ← ofFiles ((← get).files.read source)
  atFiles ((fun _ => Except.ok ()) <$> server.writeFile target content)
  tellIo ⟨.debug, "SFTP put " ++ toString content.length ++ " bytes to " ++ target⟩

def getFile (server : Server π) (id : SftpId) (source target : String) : IoOp (State π) Unit := do
  usable id
  let o ← get
  let content ← ofFiles ((server.readFile o.lib.server source).mapError IoError.ofText)
  let files ← ofFiles (o.files.write target content)
  modify fun o => { o with files := files }
  tellIo ⟨.debug, "SFTP got " ++ toString content.length ++ " bytes from " ++ source⟩

def openTransfer (server : Server π) (session : SessionId) : Op (State π) ScpId := do
  let line ← openLine server session
  let id := (← state).transferHandles.length
  change fun s => { s with transferHandles := s.transferHandles ++ [⟨line, false⟩] }
  return id

structure Stream (π : Type) where
  server : π
  ended : Bool

def Stream.take (ended : Bool) : List Message → Bytes × Bool
  | [] => ([], ended)
  | m :: rest =>
    if ended then ([], true)
    else match m with
      | .data b =>
        let (more, ended) := Stream.take false rest
        (b ++ more, ended)
      | .eof => ([], true)
      | .close => ([], true)
      | _ => Stream.take false rest

def farEnd (server : Server π) (line : Line) (bound : Nat) : Scp.FarEnd (Stream π) where
  answer := fun s b =>
    let (messages, π') := server.input line b s.server
    let (bytes, ended) := Stream.take s.ended messages
    (bytes, ⟨π', ended⟩)
  bound := bound

def talk (server : Server π) (id : ScpId) (flag path : String) (act : Scp.FarEnd (Stream π) → Scp.Talk (Stream π) Unit) :
    IoOp (State π) Unit := do
  match (← get).lib.transferHandles[id]? with
  | none => throw (.ofText "SCP handle already used")
  | some h =>
    if h.used then throw (.ofText "SCP handle already used")
    modify fun o => { o with lib :=
      { o.lib with transferHandles := o.lib.transferHandles.modify id fun h => { h with used := true } } }
    let command := "scp " ++ flag ++ " '" ++ path.shellEscaped ++ "'"
    tellIo ⟨.debug, "SCP exec: " ++ command⟩
    let o ← get
    let (messages, π') := server.run h.line (Bytes.ofString command) o.lib.server
    let (incoming, ended) := Stream.take false messages
    let far := farEnd server h.line (incoming.length + server.unsent π' h.line)
    let (outcome, wire, files) := (act far).run.run (⟨incoming, ⟨π', ended⟩⟩, o.files)
    modify fun o => { o with files := files, lib := { o.lib with server := wire.peer.server } }
    ofFiles outcome

def sendFile (server : Server π) (id : ScpId) (source target : String) : IoOp (State π) Unit :=
  talk server id "-t" target fun far => Scp.send far source target

def receiveFile (server : Server π) (id : ScpId) (source target : String) : IoOp (State π) Unit :=
  talk server id "-f" source fun far => Scp.receive far target

end RemoteExec.Client

import RemoteExec.Client.State

namespace RemoteExec.Client

variable {π : Type}

def newChannel (server : Server π) (session : SessionId) : Op (State π) ChannelId := do
  let line ← openLine server session
  let id := (← state).channels.length
  change fun s => { s with channels := s.channels ++ [(line, Channel.fresh)] }
  return id

def channelAt (id : ChannelId) : Op (State π) (Line × Channel) := do
  return ((← state).channels[id]?).getD (⟨0, 0⟩, { Channel.fresh with ended := true })

def setChannel (id : ChannelId) (c : Channel) : Op (State π) Unit :=
  change fun s => { s with channels := s.channels.modify id fun entry => (entry.1, c) }

def request (id : ChannelId) (act : Line → StateM π (List Message)) : Op (State π) Unit := do
  let (line, c) ← channelAt id
  let messages ← atServer (act line)
  setChannel id (c.deliver messages)

def requestPty (server : Server π) (id : ChannelId) : Op (State π) Unit := request id server.requestPty

def start (server : Server π) (id : ChannelId) (command : Bytes) : Op (State π) Unit :=
  request id fun line => server.run line command

def send (server : Server π) (id : ChannelId) (data : Bytes) : Op (State π) Unit :=
  request id fun line => server.input line data

def receive (id : ChannelId) (limit : Nat) : Op (State π) (Option Bytes) := do
  let (_, c) ← channelAt id
  let (chunk, c) := c.receive limit
  setChannel id c
  return chunk

def finish (id : ChannelId) : Op (State π) (Option ChannelExit) := do
  let (_, c) ← channelAt id
  let (exit, c) := c.finish
  setChannel id c
  return exit

def inspectStatus (status : Option Nat) : String := Text.inspectOption (status.map toString)

def exec (server : Server π) (id : ChannelId) (command : String) : Op (State π) CommandResult := do
  start server id (Bytes.ofString command)
  match ← finish id with
  | none => throw (.connection "the channel stays open")
  | some exit => do
    Op.tell .debug ("Command completed: exit_status=" ++ inspectStatus exit.exitStatus ++ ", stdout_len=" ++
      toString exit.stdout.length ++ ", stderr_len=" ++ toString exit.stderr.length)
    return ⟨returnCode exit.exitStatus, exit.stdout, exit.stderr⟩

def closeChannel (server : Server π) (id : ChannelId) : Op (State π) Unit := do
  let (line, c) ← channelAt id
  unless c.closed do
    atServer (server.closeChannel line)
    setChannel id { c with closed := true }

-- No channel gives more pieces than it has bytes.
def pieces (server : Server π) (s : State π) (id : ChannelId) : Nat :=
  match s.channels[id]? with
  | none => 0
  | some (line, c) =>
    c.pending.length + c.inbox.foldr (fun m n => (Channel.output m).1.length + (Channel.output m).2.length + n) 0 +
      server.unsent s.server line

end RemoteExec.Client

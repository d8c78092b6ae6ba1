import RemoteExec.Client.Channel
import RemoteExec.Client.Session
import RemoteExec.Session.Library

namespace RemoteExec.Client

structure FileHandle where
  link : LinkId
  isOpen : Bool

structure TransferHandle where
  line : Line
  used : Bool

structure State (π : Type) where
  server : π
  sessions : List Session
  channels : List (Line × Channel)
  fileHandles : List FileHandle
  transferHandles : List TransferHandle

namespace State

variable {π : Type}

def initial (server : π) : State π := ⟨server, [], [], [], []⟩

def isClosed (s : State π) (id : SessionId) : Bool := ((s.sessions[id]?).map Session.isClosed).getD true

def isLinked (s : State π) (link : LinkId) : Bool := s.sessions.any fun t => t.link == link && t.linked

end State

variable {π α : Type}

def state : Op (State π) (State π) := return (← get).lib

def change (f : State π → State π) : Op (State π) Unit := modify fun o => { o with lib := f o.lib }

def atServer (act : StateM π α) : Op (State π) α :=
  ExceptT.mk fun o =>
    let (a, server) := act o.lib.server
    (.ok a, { o with lib := { o.lib with server := server } })

def ofExcept (e : Except Failure α) : Op (State π) α :=
  match e with
  | .ok a => pure a
  | .error e => throw e

def tellAll (events : List Event) : Op (State π) Unit := modify fun o => o.tell events

def openLine (server : Server π) (session : SessionId) : Op (State π) Line := do
  let refused := fun (why : String) => Failure.connection ("Failed to open channel: " ++ why)
  match (← state).sessions[session]? with
  | none => throw (refused "Channel send error")
  | some s =>
    if s.linked then
      match ← atServer (server.openChannel s.link) with
      | .ok line => return line
      | .error why => throw (refused why)
    else throw (refused "Channel send error")

end RemoteExec.Client

import RemoteExec.Json.Printer
import RemoteExec.Proxy.Shell
import RemoteExec.ScriptedServer.Exchange
/-!
A server that plays a script and keeps a record of what it is asked. It is reached through a proxy
command that runs the bridge program; no other way leads there.
-/
namespace RemoteExec.ScriptedServer

structure Link where
  answered : Nat
  -- The channels by number; a refused one has a number too.
  channels : List Exchange
deriving Inhabited

structure State where
  plan : Plan
  environment : Environment
  links : List Link
  record : List String
  bridged : List (List String)
  files : List (String × Bytes)
  changed : List String

def State.initial (plan : Plan) (environment : Environment) (files : List (String × Bytes)) : State :=
  ⟨plan, environment, [], [], [], files, []⟩

def bridge : String := "./relay"

def note (line : String) : StateM State Unit := modify fun s => { s with record := s.record ++ [line] }

def connect (target : Target) (timeout : Duration) : StateM State (Except ConnectFault LinkId) := do
  let s ← get
  match target.proxyCommand with
  | none => return .error (.failed IoError.networkUnreachable.message)
  | some command =>
    match Proxy.Shell.run s.environment bridge command with
    | .ends after =>
      return .error (if after < timeout.totalNanos then .failed "Disconnected" else .timeout)
    | .reaches arguments after =>
      if after < timeout.totalNanos then do
        set { s with bridged := s.bridged ++ [arguments], links := s.links ++ [Link.mk 0 []] }
        return .ok s.links.length
      else return .error .timeout

def onLink (id : LinkId) (f : Link → Link) : StateM State Unit :=
  modify fun s => { s with links := s.links.modify id f }

def Questions.verdict (q : Questions) (answered : Nat) : Verdict :=
  match q.rounds[answered]? with
  | some prompts => .questions prompts
  | none => if q.accept then .success else .failure

def answerList (texts : List String) : String := (Json.arr (texts.map .str)).compact

def authenticate (link : LinkId) (request : AuthRequest) : StateM State (Except String Verdict) := do
  let s ← get
  let accept := fun (ok : Bool) => if ok then Verdict.success else Verdict.failure
  let verdict := fun (answered : Nat) => (s.plan.questions.map fun q => q.verdict answered).getD .failure
  let answered := ((s.links[link]?).map Link.answered).getD 0
  match request with
  | .password user secret => do
    note ("password " ++ user ++ " " ++ secret)
    return .ok (accept (s.plan.password == some secret))
  | .key user key => do
    note ("key " ++ user ++ " " ++ key.fingerprint)
    return .ok (accept (s.plan.keys.contains key.fingerprint))
  | .interactive user => do
    note ("interactive " ++ user)
    return .ok (verdict answered)
  | .answers texts => do
    note ("answers " ++ answerList texts)
    onLink link fun l => { l with answered := l.answered + 1 }
    return .ok (verdict (answered + 1))

def openChannel (link : LinkId) : StateM State (Except String Line) := do
  let s ← get
  let number := ((s.links[link]?).map fun l => l.channels.length).getD 0
  note ("channel " ++ toString number)
  onLink link fun l => { l with channels := l.channels ++ [Exchange.fresh] }
  if s.plan.refusedChannels.contains number then
    return .error "Failed to open channel (AdministrativelyProhibited)"
  else return .ok ⟨link, number⟩

def atExchange (line : Line) (act : Exchange → List Message × Exchange) : StateM State (List Message) := do
  let s ← get
  match s.links[line.link]? >>= fun l => l.channels[line.number]? with
  | none => return []
  | some e => do
    let (messages, e) := act e
    onLink line.link fun l => { l with channels := l.channels.set line.number e }
    return messages

def requestPty (_line : Line) : StateM State (List Message) := do
  note "pty xterm 80x24 0x0 0"
  return [.other]

def run (line : Line) (command : Bytes) : StateM State (List Message) := do
  let text := command.lossy
  note ("exec " ++ text)
  let s ← get
  atExchange line fun e => e.run (s.plan.command text)

def input (line : Line) (b : Bytes) : StateM State (List Message) := atExchange line fun e => e.input b

def startFiles (_line : Line) : StateM State Unit := note "subsystem sftp"

def notPermitted : String := "Permission denied: Permission denied"

def writeFile (path : String) (content : Bytes) : StateM State Unit :=
  modify fun s => { s with
    files := (path, content) :: s.files.filter fun f => f.1 != path
    changed := path :: s.changed.filter (· != path) }

def createFile (path : String) : StateM State (Except String Unit) := do
  if (← get).plan.denied.contains path then return .error notPermitted
  writeFile path []
  return .ok ()

def readFile (s : State) (path : String) : Except String Bytes :=
  if s.plan.denied.contains path then .error notPermitted
  else match s.files.find? (·.1 == path) with
    | some f => .ok f.2
    | none => .error "No such file: No such file"

def unsent (s : State) (line : Line) : Nat :=
  ((s.links[line.link]? >>= fun l => l.channels[line.number]?).map Exchange.unsent).getD 0

def server : Server State where
  connect := connect
  hostKeys := fun s => s.plan.hostKeys
  authenticate := authenticate
  openChannel := openChannel
  requestPty := requestPty
  run := run
  input := input
  closeChannel := fun _ => pure ()
  startFiles := startFiles
  createFile := createFile
  writeFile := writeFile
  readFile := readFile
  unsent := unsent
  disconnect := fun _ => pure (.ok ())

def awaited (s : State) : List (Nat × Bytes) :=
  s.links.flatMap fun l =>
    (l.channels.zipIdx.filter fun c => 0 < c.1.waitedFor).map fun c => (c.2, c.1.received.take c.1.waitedFor)

def changedFiles (s : State) : List (String × Bytes) :=
  let found := s.files.filter fun f => s.changed.contains f.1
  found.mergeSort fun a b => a.1 ≤ b.1

def bridgeLines (s : State) : Option String :=
  if s.bridged.isEmpty then none
  else some (String.join (s.bridged.map fun arguments => "|".intercalate arguments ++ "\n"))

end RemoteExec.ScriptedServer

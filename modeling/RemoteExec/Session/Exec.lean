import RemoteExec.Session.Connection

namespace RemoteExec.Connection

variable {σ : Type}

def readSize : Nat := 4096

inductive Watch where
  | success
  | passwordPrompt
  | closed
deriving DecidableEq

def watch (lib : Library σ) (e : Escalation) (timeout : Duration) (channel : ChannelId) :
    Nat → Bytes → Op σ (Watch × Bytes)
  | 0, seen => throw (.timeout seen.lossy)
  | fuel + 1, seen => do
    Op.tell .debug "Waiting for privilege escalation input"
    match ← lib.receive channel timeout readSize with
    | none => throw (.timeout seen.lossy)
    | some chunk =>
      Op.tell .debug ("chunk is: " ++ chunk.lossy)
      if chunk.isEmpty then
        if Bytes.contains (Bytes.ofString "unknown user") seen then
          throw (.escalation ("user " ++ e.user ++ " does not exist"))
        else return (.closed, seen)
      else
        let seen := seen ++ chunk
        match e.scan seen with
        | .waiting => watch lib e timeout channel fuel seen
        | .success => return (.success, seen)
        | .passwordPrompt => return (.passwordPrompt, seen)

-- Sends the secret when it is asked for. The output seen before counts as output of the command
-- unless the prompt was in it.
def answerWatch (lib : Library σ) (e : Escalation) (channel : ChannelId) : Watch × Bytes → Op σ Bytes
  | (.passwordPrompt, _) =>
    match e.secret with
    | none => throw (.escalation "A password is required but none was supplied")
    | some secret => do
      lib.send channel (secret ++ [10])
      return []
  | (_, seen) => return seen

def negotiate (lib : Library σ) (e : Escalation) (timeout : Duration) (channel : ChannelId) (command : String) :
    Op σ CommandResult := do
  lib.start channel (Bytes.ofString command)
  let fuel := lib.pieces (← get).lib channel + 1
  let watched ← watch lib e timeout channel fuel []
  let output ← answerWatch lib e channel watched
  match ← lib.finish channel timeout with
  | none => throw (.timeout watched.2.lossy)
  | some exit =>
    return ⟨returnCode exit.exitStatus, output ++ exit.stdout, output ++ exit.stderr⟩

def runOn (lib : Library σ) (c : Connection) (channel : ChannelId) (command : String) (sudoable : Bool) :
    Op σ CommandResult := do
  if c.options.pty && sudoable then lib.requestPty channel
  Op.tell .info ("EXEC " ++ command)
  match c.escalation.filter (·.expectsPrompt) with
  | some e => negotiate lib e c.options.timeout channel command
  | none => lib.exec channel command

def channelFailure (e : Failure) : Failure :=
  let text := match e with
    | .connection d => d
    | other => other.message
  if text.isEmpty then .connection "Failed to open session" else .connection ("Failed to open session: " ++ text)

-- Holds the channel in place of the one before, which is closed; a failure of that is only told.
def keepChannel (lib : Library σ) (channel : ChannelId) : Act σ Unit := do
  let before := (← Act.held).channel
  Act.hold fun h => { h with channel := some channel }
  match before with
  | none => return
  | some old =>
    match ← Act.attempt (Act.ofOp (lib.closeChannel old)) with
    | .ok () => return
    | .error e => Act.tell .debug ("Failed to close previous channel: " ++ e.message)

def openChannel (lib : Library σ) (session : SessionId) : Act σ ChannelId := do
  match ← Act.attempt (Act.ofOp (lib.newChannel session)) with
  | .ok channel => return channel
  | .error e => throw (channelFailure e)

def exec (lib : Library σ) (c : Connection) (command : String) (input : Option Bytes) (sudoable : Bool) :
    Act σ CommandResult := do
  if (input.getD []) ≠ [] then
    throw (.unsupportedFeature "this transport does not support input redirection on command execution")
  let session ← c.ensureConnected lib
  let channel ← openChannel lib session
  let outcome ← Act.attempt (Act.ofOp (c.runOn lib channel command sudoable))
  keepChannel lib channel
  match outcome with
  | .error e => throw e
  | .ok result =>
    Act.tell .debug ("Command completed: rc=" ++ toString result.returnCode ++ ", stdout_len=" ++
      toString result.stdout.length ++ ", stderr_len=" ++ toString result.stderr.length)
    return result

end RemoteExec.Connection

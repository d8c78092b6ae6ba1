import RemoteExec.Session.Exec
import RemoteExec.Session.Record
/-!
Commands and closings of one connection that run at the same time. Each is cut into turns at the places where it
waits: for the library or for the connection's own locks. Within a turn nothing else happens, between two anything
else may.
-/
namespace RemoteExec

variable {σ τ α β : Type}

-- What is done after a turn may depend on the state in which the turn began.
inductive Routine (τ α : Type) where
  | done (outcome : Except Failure α)
  | turn (change : τ → τ) (rest : τ → Routine τ α)

namespace Routine

def bind : Routine τ α → (α → Routine τ β) → Routine τ β
  | .done (.ok x), f => f x
  | .done (.error e), _ => .done (.error e)
  | .turn change rest, f => .turn change fun s => (rest s).bind f

instance : Monad (Routine τ) where
  pure x := .done (.ok x)
  bind := bind

def raise (e : Failure) : Routine τ α := .done (.error e)

def once (a : ExceptT Failure (StateM τ) α) : Routine τ α := .turn (fun s => (a s).2) fun s => .done (a s).1

def run : Routine τ α → τ → Except Failure α × τ
  | .done outcome, s => (outcome, s)
  | .turn change rest, s => (rest s).run (change s)

def asking (op : Op σ α) : Routine (Scene σ) α := once (Act.ofOp op)

end Routine

-- A command that is to be run. The patience is what the watch for a prompt is given beyond the bound on the pieces to
-- come, which may change while others act.
structure Job where
  command : String
  input : Option Bytes
  sudoable : Bool
  patience : Nat

namespace Connection

open Routine

def watching (lib : Library σ) (e : Escalation) (timeout : Duration) (channel : ChannelId) :
    Nat → Bytes → Routine (Scene σ) (Watch × Bytes)
  | 0, seen => raise (.timeout seen.lossy)
  | fuel + 1, seen => do
    asking (Op.tell .debug "Waiting for privilege escalation input")
    match ← asking (lib.receive channel timeout readSize) with
    | none => raise (.timeout seen.lossy)
    | some chunk =>
      asking (Op.tell .debug ("chunk is: " ++ chunk.lossy))
      if chunk.isEmpty then
        if Bytes.contains (Bytes.ofString "unknown user") seen then
          raise (.escalation ("user " ++ e.user ++ " does not exist"))
        else return (.closed, seen)
      else
        let seen := seen ++ chunk
        match e.scan seen with
        | .waiting => watching lib e timeout channel fuel seen
        | .success => return (.success, seen)
        | .passwordPrompt => return (.passwordPrompt, seen)

def negotiating (lib : Library σ) (e : Escalation) (timeout : Duration) (channel : ChannelId) (job : Job) :
    Routine (Scene σ) CommandResult := do
  asking (lib.start channel (Bytes.ofString job.command))
  let o ← asking get
  let watched ← watching lib e timeout channel (lib.pieces o.lib channel + 1 + job.patience) []
  let output ← asking (answerWatch lib e channel watched)
  match ← asking (lib.finish channel timeout) with
  | none => raise (.timeout watched.2.lossy)
  | some exit => return ⟨returnCode exit.exitStatus, output ++ exit.stdout, output ++ exit.stderr⟩

def running (lib : Library σ) (c : Connection) (job : Job) (channel : ChannelId) :
    Routine (Scene σ) CommandResult := do
  asking (if c.options.pty && job.sudoable then lib.requestPty channel else return)
  asking (Op.tell .info ("EXEC " ++ job.command))
  match c.escalation.filter (·.expectsPrompt) with
  | some e => negotiating lib e c.options.timeout channel job
  | none => asking (lib.exec channel job.command)

def releasing (take : Held → Option Nat × Held) (close : Nat → Op σ Unit) : Routine (Scene σ) Unit := do
  let take : Act σ (Option Nat) := modifyGet fun s => ((take s.held).1, { s with held := (take s.held).2 })
  match ← once take with
  | some id => asking (close id)
  | none => return

end Connection

inductive Task (σ : Type) where
  | opening (job : Job) (connect : Routine (Scene (Recorded σ)) SessionId)
  | busy (channel : ChannelId) (work : Routine (Scene (Recorded σ)) CommandResult)
  | leaving (before : Routine (Scene (Recorded σ)) Unit)
  -- A channel was taken out of the connection, to be closed next.
  | handing (channel : ChannelId) (after : Except Failure Unit → Routine (Scene (Recorded σ)) (Option CommandResult))
  | ending (rest : Routine (Scene (Recorded σ)) (Option CommandResult))

namespace Task

open Routine Connection

variable (lib : Library σ) (c : Connection)

def exec (job : Job) (connect : Routine (Scene (Recorded σ)) SessionId) : Task σ :=
  if (job.input.getD []) ≠ [] then
    .ending (raise (.unsupportedFeature "this transport does not support input redirection on command execution"))
  else .opening job connect

def close : Task σ :=
  .leaving do
    once c.evict
    releasing (fun h => (h.sftp, { h with sftp := none })) lib.recorded.closeSftp

def report : Except Failure CommandResult → Routine (Scene (Recorded σ)) (Option CommandResult)
  | .error e => raise e
  | .ok result => do
    asking (Op.tell .debug ("Command completed: rc=" ++ toString result.returnCode ++ ", stdout_len=" ++
      toString result.stdout.length ++ ", stderr_len=" ++ toString result.stderr.length))
    return some result

def replaced (outcome : Except Failure CommandResult) :
    Except Failure Unit → Routine (Scene (Recorded σ)) (Option CommandResult)
  | .ok () => report outcome
  | .error e => do
    asking (Op.tell .debug ("Failed to close previous channel: " ++ e.message))
    report outcome

def emptied : Except Failure Unit → Routine (Scene (Recorded σ)) (Option CommandResult)
  | .error e => raise e
  | .ok () => do
    releasing (fun h => (h.session, { h with session := none })) lib.recorded.closeSession
    once (Act.setState .closed)
    asking (Op.tell .info ("SSH connection to " ++ c.identity.text ++ " closed"))
    return none

def handOver (taken : Option ChannelId)
    (after : Except Failure Unit → Routine (Scene (Recorded σ)) (Option CommandResult)) : Task σ :=
  match taken with
  | some channel => .handing channel after
  | none => .ending (after (.ok ()))

def turn (s : Scene (Recorded σ)) : Task σ → Task σ × Scene (Recorded σ)
  | .opening job (.turn change rest) => (.opening job (rest s), change s)
  | .opening _ (.done (.error e)) => (.ending (raise e), s)
  | .opening job (.done (.ok session)) =>
    match openChannel lib.recorded session s with
    | (.ok channel, s) => (.busy channel (c.running lib.recorded job channel), s)
    | (.error e, s) => (.ending (raise e), s)
  | .busy channel (.turn change rest) => (.busy channel (rest s), change s)
  | .busy channel (.done outcome) =>
    (handOver s.held.channel (replaced outcome), { s with held := { s.held with channel := some channel } })
  | .leaving (.turn change rest) => (.leaving (rest s), change s)
  | .leaving (.done (.error e)) => (.ending (raise e), s)
  | .leaving (.done (.ok ())) =>
    (handOver s.held.channel (emptied lib c), { s with held := { s.held with channel := none } })
  | .handing channel after =>
    let (outcome, outside) := lib.recorded.closeChannel channel s.outside
    (.ending (after outcome), { s with outside := outside })
  | .ending (.turn change rest) => (.ending (rest s), change s)
  | .ending (.done outcome) => (.ending (.done outcome), s)

end Task

structure System (σ : Type) where
  scene : Scene (Recorded σ)
  tasks : List (Task σ)

namespace System

inductive Event (σ : Type) where
  | exec (job : Job) (connect : Routine (Scene (Recorded σ)) SessionId)
  | close
  | turn (i : Nat)
  -- What others do, and the connection itself apart from commands and closings.
  | elsewhere (change : Scene (Recorded σ) → Scene (Recorded σ))

variable (lib : Library σ) (c : Connection)

def step (y : System σ) : Event σ → System σ
  | .exec job connect => { y with tasks := y.tasks ++ [Task.exec job connect] }
  | .close => { y with tasks := y.tasks ++ [Task.close lib c] }
  | .turn i =>
    match y.tasks[i]? with
    | some task => ⟨(task.turn lib c y.scene).2, y.tasks.set i (task.turn lib c y.scene).1⟩
    | none => y
  | .elsewhere change => { y with scene := change y.scene }

def run (events : List (Event σ)) (y : System σ) : System σ := events.foldl (step lib c) y

end System
end RemoteExec

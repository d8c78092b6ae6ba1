import RemoteExec.Command.Result
import RemoteExec.Files.FileSystem
import RemoteExec.HostKeys.Policy
import RemoteExec.Session.Request
import RemoteExec.Version
/-!
What a connection asks of an SSH library, and the surroundings that the library's operations act on.
The library's own state is a type parameter, so that statements about connections hold for every library.
-/
namespace RemoteExec

abbrev SessionId := Nat

abbrev ChannelId := Nat

abbrev SftpId := Nat

abbrev ScpId := Nat

structure Outside (σ : Type) where
  lib : σ
  files : FileSystem
  operator : Prompter
  log : List Event

abbrev Op (σ : Type) := ExceptT Failure (StateM (Outside σ))

abbrev IoOp (σ : Type) := ExceptT IoError (StateM (Outside σ))

def Outside.tell (o : Outside σ) (events : List Event) : Outside σ := { o with log := o.log ++ events }

def Op.tell (level : Level) (text : String) : Op σ Unit := modify fun o => o.tell [⟨level, text⟩]

def Op.attempt (op : Op σ α) : Op σ (Except Failure α) :=
  ExceptT.mk fun o =>
    let (outcome, o) := op o
    (.ok outcome, o)

structure Library (σ : Type) where
  name : String
  version : Version
  -- The first contact for a request; others may act before it is followed by `establish`.
  dial : Request → StateM (Outside σ) Unit
  establish : Request → Op σ SessionId
  isClosed : σ → SessionId → Bool
  newChannel : SessionId → Op σ ChannelId
  openSftp : SessionId → Op σ SftpId
  openScp : SessionId → Op σ ScpId
  closeSession : SessionId → Op σ Unit
  requestPty : ChannelId → Op σ Unit
  start : ChannelId → Bytes → Op σ Unit
  send : ChannelId → Bytes → Op σ Unit
  -- At most so many bytes of output, none once the far side is done; `none` if the time ran out.
  receive : ChannelId → Duration → Nat → Op σ (Option Bytes)
  exec : ChannelId → String → Op σ CommandResult
  -- The rest of a started command; `none` if the time ran out.
  finish : ChannelId → Duration → Op σ (Option ChannelExit)
  closeChannel : ChannelId → Op σ Unit
  -- A bound on the number of nonempty pieces that a channel still has to give.
  pieces : σ → ChannelId → Nat
  sftpPut : SftpId → String → String → IoOp σ Unit
  sftpGet : SftpId → String → String → IoOp σ Unit
  closeSftp : SftpId → Op σ Unit
  scpPut : ScpId → String → String → IoOp σ Unit
  scpGet : ScpId → String → String → IoOp σ Unit

end RemoteExec

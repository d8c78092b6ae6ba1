import RemoteExec.Session.Library

namespace RemoteExec

variable {σ α : Type}

inductive Call where
  | dial (r : Request)
  | establish (r : Request) (outcome : Except Failure SessionId)
  | openSftp (session : SessionId) (outcome : Except Failure SftpId)
  | newChannel (session : SessionId) (outcome : Except Failure ChannelId)
  | requestPty (channel : ChannelId) (outcome : Except Failure Unit)
  | start (channel : ChannelId) (command : Bytes) (outcome : Except Failure Unit)
  | send (channel : ChannelId) (data : Bytes) (outcome : Except Failure Unit)
  | receive (channel : ChannelId) (outcome : Except Failure (Option Bytes))
  | exec (channel : ChannelId) (command : String) (outcome : Except Failure CommandResult)
  | finish (channel : ChannelId) (outcome : Except Failure (Option ChannelExit))
  | closeChannel (channel : ChannelId) (outcome : Except Failure Unit)

structure Recorded (σ : Type) where
  state : σ
  calls : List Call

namespace Recorded

def plain (o : Outside (Recorded σ)) : Outside σ := ⟨o.lib.state, o.files, o.operator, o.log⟩

def noting (note : α → List Call) (op : StateM (Outside σ) α) : StateM (Outside (Recorded σ)) α := fun o =>
  let (outcome, p) := op (plain o)
  (outcome, ⟨⟨p.lib, o.lib.calls ++ note outcome⟩, p.files, p.operator, p.log⟩)

def silent (op : StateM (Outside σ) α) : StateM (Outside (Recorded σ)) α := noting (fun _ => []) op

end Recorded

open Recorded in
def Library.recorded (lib : Library σ) : Library (Recorded σ) where
  name := lib.name
  version := lib.version
  dial := fun r => noting (fun _ => [.dial r]) (lib.dial r)
  establish := fun r => noting (fun outcome => [.establish r outcome]) (lib.establish r)
  isClosed := fun l session => lib.isClosed l.state session
  newChannel := fun session => noting (fun outcome => [.newChannel session outcome]) (lib.newChannel session)
  openSftp := fun session => noting (fun outcome => [.openSftp session outcome]) (lib.openSftp session)
  openScp := fun session => silent (lib.openScp session)
  closeSession := fun session => silent (lib.closeSession session)
  requestPty := fun channel => noting (fun outcome => [.requestPty channel outcome]) (lib.requestPty channel)
  start := fun channel command =>
    noting (fun outcome => [.start channel command outcome]) (lib.start channel command)
  send := fun channel data => noting (fun outcome => [.send channel data outcome]) (lib.send channel data)
  receive := fun channel timeout limit =>
    noting (fun outcome => [.receive channel outcome]) (lib.receive channel timeout limit)
  exec := fun channel command => noting (fun outcome => [.exec channel command outcome]) (lib.exec channel command)
  finish := fun channel timeout => noting (fun outcome => [.finish channel outcome]) (lib.finish channel timeout)
  closeChannel := fun channel => noting (fun outcome => [.closeChannel channel outcome]) (lib.closeChannel channel)
  pieces := fun l channel => lib.pieces l.state channel
  sftpPut := fun handle source target => silent (lib.sftpPut handle source target)
  sftpGet := fun handle source target => silent (lib.sftpGet handle source target)
  closeSftp := fun handle => silent (lib.closeSftp handle)
  scpPut := fun handle source target => silent (lib.scpPut handle source target)
  scpGet := fun handle source target => silent (lib.scpGet handle source target)

-- Names of handles may come back: one stands for the handle it was last given to.
def Call.opened? (handle : SftpId) : Call → Option SessionId
  | .openSftp session (.ok opened) => if opened = handle then some session else none
  | _ => none

def openedOn (calls : List Call) (handle : SftpId) : Option SessionId :=
  calls.reverse.findSome? (Call.opened? handle)

end RemoteExec

import RemoteExec.Client.Commands
import RemoteExec.Client.Connect
import RemoteExec.Client.Files

namespace RemoteExec.Client

variable {π : Type}

def library (server : Server π) (env : Environment) : Library (State π) where
  name := "russh"
  version := ⟨1, 0, 0⟩
  dial := fun _ => pure ()
  establish := establish server env
  isClosed := State.isClosed
  newChannel := newChannel server
  openSftp := openFiles server
  openScp := openTransfer server
  closeSession := closeSession server
  requestPty := requestPty server
  start := start server
  send := send server
  receive := fun id _ limit => receive id limit
  exec := exec server
  finish := fun id _ => finish id
  closeChannel := closeChannel server
  pieces := pieces server
  sftpPut := putFile server
  sftpGet := getFile server
  closeSftp := closeFiles
  scpPut := sendFile server
  scpGet := receiveFile server

end RemoteExec.Client

import RemoteExec.Session.Connection
import RemoteExec.Transfer.Protocol

namespace RemoteExec.Connection

variable {σ α : Type}

def ofIo (op : IoOp σ α) (failure : IoError → Failure) : Act σ α :=
  Act.ofOp (ExceptT.mk fun o =>
    match op o with
    | (.ok a, o) => (.ok a, o)
    | (.error e, o) => (.error (failure e), o))

def openingSftp (act : Act σ α) : Act σ α := do
  match ← Act.attempt act with
  | .ok a => return a
  | .error e => throw (.transferFailed ("failed to open a SFTP connection (" ++ e.message ++ ")"))

def holdSftp (handle : SftpId) : Act σ Unit := Act.hold fun h => { h with sftp := some handle }

def putFile (lib : Library σ) (c : Connection) (source target : String) (protocol : TransferProtocol) :
    Act σ Unit := do
  Act.tell .info ("PUT " ++ source ++ " TO " ++ target)
  unless (← get).outside.files.exists? source do throw (.fileNotFound source)
  let session ← c.ensureConnected lib
  match protocol with
  | .sftp =>
    let handle ← openingSftp (Act.ofOp (lib.openSftp session))
    holdSftp handle
    ofIo (lib.sftpPut handle source target) fun e =>
      .transferFailed ("failed to transfer file to " ++ target ++ ": " ++ e.message)
  | .scp =>
    let handle ← Act.ofOp (lib.openScp session)
    ofIo (lib.scpPut handle source target) fun e =>
      .transferFailed ("Error transferring file to " ++ target ++ ": " ++ e.message)

def fetchFile (lib : Library σ) (c : Connection) (source target : String) (protocol : TransferProtocol) :
    Act σ Unit := do
  Act.tell .info ("FETCH " ++ source ++ " TO " ++ target)
  match protocol with
  | .sftp =>
    let handle ← openingSftp (c.connectSftp lib)
    holdSftp handle
    ofIo (lib.sftpGet handle source target) fun e =>
      .transferFailed ("failed to transfer file from " ++ source ++ ": " ++ e.message)
  | .scp =>
    let session ← c.ensureConnected lib
    let handle ← Act.ofOp (lib.openScp session)
    ofIo (lib.scpGet handle source target) fun e =>
      .transferFailed ("Error transferring file from " ++ source ++ ": " ++ e.message)

end RemoteExec.Connection

import RemoteExec.Failure

namespace RemoteExec

inductive TransferProtocol where
  | sftp
  | scp
deriving DecidableEq, Inhabited

namespace TransferProtocol

def name : TransferProtocol → String
  | .sftp => "sftp"
  | .scp => "scp"

def ofName (s : String) : Except Failure TransferProtocol :=
  if s == "sftp" then .ok .sftp
  else if s == "scp" then .ok .scp
  else .error (.unsupportedProtocol s)

end TransferProtocol
end RemoteExec

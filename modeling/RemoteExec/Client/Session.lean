import RemoteExec.Client.Server
import RemoteExec.HostKeys.Gate

namespace RemoteExec.Client

structure Session where
  link : LinkId
  gate : Gate
  closing : Bool
  linked : Bool
deriving Inhabited

namespace Session

def isClosed (s : Session) : Bool := s.closing || !s.linked

-- Closing has begun, whatever comes of saving the keys.
def save (s : Session) (fs : FileSystem) : Except Failure Unit × FileSystem × Session × List Event :=
  match s.gate.persist fs with
  | (.ok files, gate, events) => (.ok (), files, { s with closing := true, gate := gate }, events)
  | (.error (e, files), gate, events) => (.error e, files, { s with closing := true, gate := gate }, events)

end Session
end RemoteExec.Client

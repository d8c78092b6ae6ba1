import RemoteExec.Text.Inspect

namespace RemoteExec

structure Identity where
  addr : String
  user : String
deriving DecidableEq, Inhabited

namespace Identity

def text (i : Identity) : String := i.addr ++ "__" ++ i.user ++ "__"

def inspect (i : Identity) : String :=
  Text.inspectRecord "ConnectionIdentity"
    [("remote_addr", Text.inspect i.addr), ("remote_user", Text.inspect i.user)]

end Identity
end RemoteExec

namespace RemoteExec.Proxy

structure Route where
  host : String
  port : Nat
  user : String
deriving DecidableEq

-- One pass from left to right: what is filled in is not looked at again.
def fill (host port user : List Char) : List Char → List Char
  | '%' :: 'h' :: rest => host ++ fill host port user rest
  | '%' :: 'p' :: rest => port ++ fill host port user rest
  | '%' :: 'r' :: rest => user ++ fill host port user rest
  | c :: rest => c :: fill host port user rest
  | [] => []

def substitute (template : String) (r : Route) : String :=
  String.ofList (fill r.host.toList (toString r.port).toList r.user.toList template.toList)

end RemoteExec.Proxy

namespace RemoteExec

structure Environment where
  bindings : List (String × String)
deriving Inhabited

namespace Environment

def get? (env : Environment) (name : String) : Option String :=
  (env.bindings.find? fun v => v.1 == name).map (·.2)

-- The home directory; where none is named it is the administrator's.
def home? (env : Environment) : Option String :=
  some (((env.get? "HOME").filter (!·.isEmpty)).getD "/root")

def user? (env : Environment) : Option String := env.get? "USER" <|> env.get? "USERNAME"

end Environment
end RemoteExec

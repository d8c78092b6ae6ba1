import RemoteExec.Text.Blank

namespace RemoteExec.Path

def isAbsolute (path : String) : Bool := path.toList.head? == some '/'

def pieces (path : String) : List String := (Text.splitOn '/' path.toList).map String.ofList

def steps (path : String) : List String := (pieces path).filter fun p => p != "" && p != "."

-- The name that the last step gives; a path that ends at a root or in two dots has none.
def fileName? (path : String) : Option String := (steps path).getLast?.filter (· != "..")

def join (base path : String) : String :=
  if isAbsolute path || base.isEmpty then path
  else if base.toList.getLast? == some '/' then base ++ path
  else base ++ "/" ++ path

def ofSteps (absolute : Bool) (steps : List String) : String :=
  (if absolute then "/" else "") ++ "/".intercalate steps

end RemoteExec.Path

import RemoteExec.Text.Blank
import RemoteExec.Text.Lowercase

namespace RemoteExec

def asksPassword (prompt : String) (expected : Option String) : Bool :=
  Text.contains (expected.getD "password").lowercase.toList prompt.lowercase.toList

end RemoteExec

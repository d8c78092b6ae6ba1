import RemoteExec.Escalation
import RemoteExec.Text.Inspect
import RemoteExec.Text.ShellWords
import RemoteExec.Text.Blank

namespace RemoteExec

def sanitizePassword (password : Option String) : Option String :=
  (password.map String.trimBlanks).filter fun p => !p.isEmpty

structure Sudo where
  user : String
  password : Option String
  nonce : String

namespace Sudo

def make (user : String) (password : Option String) (nonce : String) : Sudo :=
  ⟨user, sanitizePassword password, nonce⟩

def prompt (s : Sudo) : String := "[sudo via ssh-transport, key=" ++ s.nonce ++ "] password:"

def marker (s : Sudo) : String := "BECOME-SUCCESS-" ++ s.nonce

def commandLine (s : Sudo) (command : String) : String :=
  let inner := ("echo " ++ s.marker ++ "; " ++ command).shellEscaped
  let asking := if s.password.isSome then "-p \"" ++ s.prompt ++ "\"" else "-n"
  "sudo -H -S " ++ asking ++ " -u " ++ s.user ++ " /bin/sh -c '" ++ inner ++ "'"

def isSuccess (s : Sudo) (line : Bytes) : Bool := line.trimRight == Bytes.ofString s.marker

def isPrompt (s : Sudo) (line : Bytes) : Bool := (Bytes.ofString s.prompt).isSuffixOf line.trimRight

def escalation (s : Sudo) : Escalation where
  expectsPrompt := s.password.isSome
  isSuccess := s.isSuccess
  isPrompt := s.isPrompt
  secret := s.password.map Bytes.ofString
  user := s.user

def inspect (s : Sudo) : String :=
  Text.inspectRecord "SudoEscalation"
    [("user", Text.inspect s.user), ("has_password", Text.inspectBool s.password.isSome)]

end Sudo
end RemoteExec

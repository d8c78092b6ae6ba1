import RemoteExec.Failure
import RemoteExec.Log
import RemoteExec.Text.Inspect

namespace RemoteExec

structure HostKey where
  hostname : String
  port : Nat
  keyType : String
  fingerprint : String
  message : String
  publicKey : String
deriving DecidableEq, Inhabited

namespace HostKey

def statement (k : HostKey) : String :=
  "The authenticity of host '" ++ k.hostname ++ "' can't be established due to '" ++ k.message ++
    "'.\nThe " ++ k.keyType ++ " key fingerprint is " ++ k.fingerprint ++ "."

def question (k : HostKey) : String :=
  k.statement ++ "\nAre you sure you want to continue connecting (yes/no)? "

def rejected (k : HostKey) (reason : String) : Failure :=
  .keyRejected ⟨k.hostname, k.keyType, k.fingerprint, reason⟩

end HostKey

-- The operator: the answers still to come, and the questions asked, newest first. When no answer is
-- left the operator answers with an empty text.
structure Prompter where
  answers : List (Except Failure String)
  asked : List String
deriving Inhabited

namespace Prompter

def ask (p : Prompter) (text : String) : Except Failure String × Prompter :=
  match p.answers with
  | [] => (.ok "", ⟨[], text :: p.asked⟩)
  | a :: rest => (a, ⟨rest, text :: p.asked⟩)

end Prompter

inductive Decision where
  | accept
  | reject
  | askUser
deriving DecidableEq

structure KeyPolicy where
  checking : Bool
  autoAdd : Bool
  persistent : Bool
deriving DecidableEq, Inhabited

namespace KeyPolicy

def decide (p : KeyPolicy) : Decision :=
  if !p.checking || p.autoAdd then .accept
  else if p.persistent then .reject
  else .askUser

def consents (answer : String) : Bool :=
  let word := String.ofList (answer.toList.reverse.dropWhile fun c => c == '\r' || c == '\n').reverse
  word == "yes" || word == "y" || word == ""

def trusting (key : HostKey) : Event :=
  ⟨.debug, "Trusting " ++ key.keyType ++ " key " ++ key.fingerprint ++ " for " ++ key.hostname⟩

def verify (p : KeyPolicy) (key : HostKey) (operator : Prompter) : Except Failure Unit × Prompter × List Event :=
  match p.decide with
  | .accept => (.ok (), operator, [trusting key])
  | .reject => (.error (key.rejected key.statement), operator, [⟨.warn, key.statement⟩])
  | .askUser =>
    let (answer, operator) := operator.ask key.question
    match answer with
    | .error e => (.error e, operator, [])
    | .ok text =>
      if consents text then
        (.ok (), operator, [⟨.info, "Host key for " ++ key.hostname ++ " accepted by user"⟩, trusting key])
      else (.error (key.rejected "host connection rejected by user"), operator, [])

def inspect (p : KeyPolicy) : String :=
  Text.inspectRecord "HostKeyPolicy"
    [("host_key_checking", Text.inspectBool p.checking), ("host_key_auto_add", Text.inspectBool p.autoAdd),
      ("persistent", Text.inspectBool p.persistent)]

end KeyPolicy
end RemoteExec

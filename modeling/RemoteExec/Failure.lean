namespace RemoteExec

inductive IoKind where
  | other
  | unexpectedEof
  | invalidData
  | invalidInput
  | notFound
  | isADirectory
  | notADirectory
  | alreadyExists
  | permissionDenied
  | notConnected
  | networkUnreachable
  | brokenPipe
deriving DecidableEq, Inhabited

def IoKind.name : IoKind → String
  | .other => "Other"
  | .unexpectedEof => "UnexpectedEof"
  | .invalidData => "InvalidData"
  | .invalidInput => "InvalidInput"
  | .notFound => "NotFound"
  | .isADirectory => "IsADirectory"
  | .notADirectory => "NotADirectory"
  | .alreadyExists => "AlreadyExists"
  | .permissionDenied => "PermissionDenied"
  | .notConnected => "NotConnected"
  | .networkUnreachable => "NetworkUnreachable"
  | .brokenPipe => "BrokenPipe"

structure IoError where
  kind : IoKind
  message : String
deriving DecidableEq, Inhabited

namespace IoError

def notFound : IoError := ⟨.notFound, "No such file or directory (os error 2)"⟩

def permissionDenied : IoError := ⟨.permissionDenied, "Permission denied (os error 13)"⟩

def alreadyExists : IoError := ⟨.alreadyExists, "File exists (os error 17)"⟩

def notADirectory : IoError := ⟨.notADirectory, "Not a directory (os error 20)"⟩

def isADirectory : IoError := ⟨.isADirectory, "Is a directory (os error 21)"⟩

def invalidArgument : IoError := ⟨.invalidInput, "Invalid argument (os error 22)"⟩

def networkUnreachable : IoError := ⟨.networkUnreachable, "Network is unreachable (os error 101)"⟩

def earlyEof : IoError := ⟨.unexpectedEof, "early eof"⟩

def ofText (message : String) : IoError := ⟨.other, message⟩

end IoError

structure Rejection where
  host : String
  keyType : String
  fingerprint : String
  reason : String
deriving DecidableEq, Inhabited

inductive Failure where
  | missingDependency (detail : String)
  | connection (detail : String)
  | authentication (detail : String)
  | keyRejected (rejection : Rejection)
  | fileNotFound (path : String)
  | transferFailed (detail : String)
  | unsupportedProtocol (name : String)
  | unsupportedFeature (detail : String)
  | escalation (detail : String)
  -- Nothing came while waiting for the escalation; carries the output so far.
  | timeout (output : String)
  | config (detail : String)
  | io (cause : IoError)
  | sshKey (detail : String)
deriving DecidableEq, Inhabited

namespace Failure

def message : Failure → String
  | .missingDependency d => "Missing dependency: " ++ d
  | .connection d => "SSH connection error: " ++ d
  | .authentication d => "Authentication failed: " ++ d
  | .keyRejected r =>
    "Host key for '" ++ r.host ++ "' rejected (" ++ r.reason ++ "). The " ++ r.keyType ++
      " key fingerprint is " ++ r.fingerprint ++ "."
  | .fileNotFound p => "file or module does not exist: " ++ p
  | .transferFailed d => "Transfer failed: " ++ d
  | .unsupportedProtocol n => "Don't know how to transfer file over protocol " ++ n
  | .unsupportedFeature d => "Unsupported feature: " ++ d
  | .escalation d => "Privilege escalation failed: " ++ d
  | .timeout output => "ssh timed out waiting for privilege escalation.\n" ++ output
  | .config d => "Configuration error: " ++ d
  | .io e => "IO error: " ++ e.message
  | .sshKey d => "SSH key error: " ++ d

end Failure
end RemoteExec

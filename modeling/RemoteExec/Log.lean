namespace RemoteExec

inductive Level where
  | debug
  | info
  | warn
  | error
deriving DecidableEq, Inhabited

namespace Level

def rank : Level → Nat
  | .debug => 0
  | .info => 1
  | .warn => 2
  | .error => 3

def name : Level → String
  | .debug => "DEBUG"
  | .info => "INFO"
  | .warn => "WARN"
  | .error => "ERROR"

end Level

structure Event where
  level : Level
  text : String
deriving DecidableEq, Inhabited

namespace Event

def atLeast (threshold : Level) (e : Event) : Bool := threshold.rank ≤ e.level.rank

def line (e : Event) : String := e.level.name ++ " " ++ e.text

end Event
end RemoteExec

import RemoteExec.CommandLine.Config
import RemoteExec.CommandLine.Help
import RemoteExec.Json.Printer
import RemoteExec.Session.Exec
import RemoteExec.Session.Transfer

namespace RemoteExec.CommandLine

structure Printed where
  code : Nat
  stdout : Bytes
  stderr : Bytes

def exitCode (returnCode : Int) : Nat := (returnCode % 256).toNat

def causes (e : Failure) : List String :=
  match e with
  | .io cause => [e.message, cause.message]
  | _ => [e.message]

def indented (lead further text : String) : String :=
  lead ++ ("\n" ++ further).intercalate ((Text.splitOn '\n' text.toList).map String.ofList)

def causeLines (texts : List String) : List String :=
  match texts with
  | [text] => [indented "    " "    " text]
  | _ => texts.zipIdx.map fun t => indented ("    " ++ toString t.2 ++ ": ") "       " t.1

def complaint (context : String) (e : Failure) : String :=
  "Error: " ++ context ++ "\n\nCaused by:\n" ++ "\n".intercalate (causeLines (causes e)) ++ "\n"

def Task.context (host : String) : Task → String
  | .exec _ => "failed to run command on " ++ host
  | .put source target _ => "put " ++ source ++ " to " ++ host ++ ":" ++ target
  | .fetch source target _ => "fetch " ++ host ++ ":" ++ source ++ " to " ++ target

def report (host operation : String) (returnCode : Int) (outputs : List (String × String)) : Bytes :=
  Bytes.ofString (Json.pretty 0 (.obj ([("host", .str host), ("operation", .str operation),
    ("rc", CommandResult.intJson returnCode)] ++ outputs.map fun o => (o.1, .str o.2))) ++ "\n")

variable {σ : Type}

def perform (lib : Library σ) (c : Connection) (config : Config) (elevated : Option Sudo) :
    Act σ (Int × Bytes × Bytes) := do
  let host := config.options.remoteAddr
  match config.task with
  | .exec command => do
    let line := (elevated.map fun s => s.commandLine command).getD command
    let r ← c.exec lib line none elevated.isSome
    if config.json then
      return (r.returnCode, report host "exec" r.returnCode [("stdout", r.stdout.lossy), ("stderr", r.stderr.lossy)], [])
    else return (r.returnCode, r.stdout, r.stderr)
  | .put source target protocol => do
    c.putFile lib source target protocol
    return (0, if config.json then report host "put" 0 [] else [], [])
  | .fetch source target protocol => do
    c.fetchFile lib source target protocol
    return (0, if config.json then report host "fetch" 0 [] else [], [])

def closeQuietly (lib : Library σ) (c : Connection) : Act σ Unit := do
  match ← Act.attempt (c.close lib) with
  | .ok () => return
  | .error e => Act.tell .warn ("Failed to close connection: " ++ e.message)

-- Runs a task that is configured. The questions to the operator come before all error output.
def execute (lib : Library σ) (connection : Connection) (config : Config) (nonce : String) (o : Outside σ) :
    Printed × Outside σ :=
  let elevated := config.become.map fun b => Sudo.make b.user b.password nonce
  let c := { connection with escalation := elevated.map Sudo.escalation }
  let events := ⟨.info, "SSH Transport v1.0.0 starting..."⟩ ::
    (elevated.map fun s => (⟨.info, "Escalating to '" ++ s.user ++ "' with sudo"⟩ : Event)).toList
  let scene : Scene σ := ⟨o.tell events, Cache.empty, Held.nothing⟩
  let (outcome, scene) := perform lib c config elevated scene
  let (_, scene) := closeQuietly lib c scene
  let asked := Bytes.ofString (String.join scene.outside.operator.asked.reverse)
  let printed : Printed := match outcome with
    | .ok (returnCode, out, err) => ⟨exitCode returnCode, out, asked ++ err⟩
    | .error e => ⟨1, [], asked ++ Bytes.ofString (complaint (config.task.context config.options.remoteAddr) e)⟩
  (printed, scene.outside)

def UsageError.sentence : UsageError → String
  | .unknownArgument => "unexpected argument"
  | .invalidValue => "invalid value"
  | .valueValidation => "invalid value"
  | .missingRequiredArgument => "a required argument was not provided"
  | .missingSubcommand => "a command was not provided"
  | .nothingGiven => "nothing was given"
  | .invalidSubcommand => "unrecognized command"
  | .argumentConflict => "an argument cannot be used multiple times"
  | .tooManyValues => "unexpected value"
  | .displayHelp _ => "help was asked for"
  | .displayVersion => "the version was asked for"

def answerUsage (env : Environment) (e : UsageError) : Printed :=
  match e with
  | .displayHelp topic => ⟨0, Bytes.ofString (Help.text env topic), []⟩
  | .displayVersion => ⟨0, Bytes.ofString (top.name ++ " 1.0.0\n"), []⟩
  | .nothingGiven => ⟨2, [], Bytes.ofString (Help.text env none)⟩
  | _ => ⟨2, [], Bytes.ofString ("error: " ++ e.sentence ++ "\n\nFor more information, try '--help'.\n")⟩

-- The whole run. `hasLibrary` tells whether there is a library to connect with.
def runProgram (lib : Library σ) (hasLibrary : Bool) (env : Environment) (nonce : String) (words : List String)
    (o : Outside σ) : Printed × Outside σ :=
  match Arguments.parse env words with
  | .error e => (answerUsage env e, o)
  | .ok a =>
    match Config.ofArguments o.files a with
    | .error e => (⟨1, [], Bytes.ofString ("Error: " ++ e.message ++ "\n")⟩, o)
    | .ok config =>
      let c := { Connection.make config.options 0 env with hasLibrary := hasLibrary }
      execute lib c config nonce o

def operatorOf (input : Bytes) : Prompter :=
  ⟨(Bytes.lines input).map fun line =>
    match line.toString? with
    | some s => .ok s
    | none => .error (.io ⟨.invalidData, "stream did not contain valid UTF-8"⟩), []⟩

end RemoteExec.CommandLine

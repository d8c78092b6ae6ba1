import RemoteExec.CommandLine.Usage
import RemoteExec.Decimal.Reader
import RemoteExec.Environment
/-!
Reading the words of a command line, from left to right. A value in the same word as its option is
checked at once. One in a word of its own waits until the next word shows that it is complete; only then
is it checked. A command's own words are read to their end before the values that still wait in front of it.
-/
namespace RemoteExec.CommandLine

inductive UsageError where
  | unknownArgument
  | invalidValue
  | valueValidation
  | missingRequiredArgument
  | missingSubcommand
  | nothingGiven
  | invalidSubcommand
  | argumentConflict
  | tooManyValues
  | displayHelp (topic : Option String)
  | displayVersion
deriving DecidableEq

inductive Value where
  | text (s : String)
  | port (n : Nat)
  | seconds (x : Decimal.Binary64)
  | flag (b : Bool)
  | count (n : Nat)
deriving DecidableEq

structure Waiting where
  name : String
  form : OptionForm
  given : Option String

structure Reading where
  values : List (String × Value)
  waiting : Option Waiting
  plain : Bool
  arguments : Nat

namespace Reading

def start : Reading := ⟨[], none, false, 0⟩

def get? (r : Reading) (name : String) : Option Value := (r.values.find? fun v => v.1 == name).map (·.2)

end Reading

def parseValue (kind : ValueKind) (s : String) : Except UsageError Value :=
  match kind with
  | .text => .ok (.text s)
  | .path => if s.isEmpty then .error .invalidValue else .ok (.text s)
  | .port =>
    match Decimal.readInt? 9223372036854775807 s.toList with
    | some n => if 0 ≤ n ∧ n ≤ 65535 then .ok (.port n.toNat) else .error .valueValidation
    | none => .error .valueValidation
  | .seconds =>
    match Decimal.readBinary64? s.toList with
    | some x => .ok (.seconds x)
    | none => .error .valueValidation

def formKind : OptionForm → ValueKind
  | .value kind => kind
  | _ => .text

def settle (r : Reading) : Except UsageError Reading :=
  match r.waiting with
  | none => .ok r
  | some w =>
    match w.given with
    | none => .error .invalidValue
    | some s =>
      if (r.get? w.name).isSome then .error .argumentConflict
      else do
        let v ← parseValue (formKind w.form) s
        return { r with values := r.values ++ [(w.name, v)], waiting := none }

def raise (r : Reading) (o : OptionSpec) : Except UsageError Reading := do
  let r ← settle r
  match o.form, r.get? o.name with
  | .count, some (.count n) =>
    return { r with values := r.values.map fun v => if v.1 == o.name then (v.1, .count (min 255 (n + 1))) else v }
  | .count, _ => return { r with values := r.values ++ [(o.name, .count 1)] }
  | _, some _ => throw .argumentConflict
  | _, none => return { r with values := r.values ++ [(o.name, .flag true)] }

def isFlag (o : OptionSpec) : Bool := o.form == .flag || o.form == .count

def topicOf (c : CommandSpec) : Option String := if c.hasVersion then none else some c.name

def askHelp (c : CommandSpec) (r : Reading) : Except UsageError Reading := do
  let _ ← settle r
  throw (.displayHelp (topicOf c))

def askVersion (r : Reading) : Except UsageError Reading := do
  let _ ← settle r
  throw .displayVersion

def readLong (c : CommandSpec) (r : Reading) (name : String) (value : Option String) : Except UsageError Reading :=
  match c.options.find? fun o => o.name == name with
  | some o =>
    if isFlag o then (if value.isSome then .error .tooManyValues else raise r o)
    else do
      let r ← settle r
      let opened := { r with waiting := some ⟨o.name, o.form, value⟩ }
      if value.isSome then settle opened else return opened
  | none =>
    if name == "help" then (if value.isSome then .error .tooManyValues else askHelp c r)
    else if name == "version" && c.hasVersion then (if value.isSome then .error .tooManyValues else askVersion r)
    else .error .unknownArgument

def readLetters (c : CommandSpec) (r : Reading) : List Char → Except UsageError Reading
  | [] => .ok r
  | letter :: rest =>
    match c.options.find? fun o => o.letter == some letter with
    | some o => do
      let r ← raise r o
      readLetters c r rest
    | none =>
      if letter == 'h' then askHelp c r
      else if letter == 'V' && c.hasVersion then askVersion r
      else .error .unknownArgument

def openOption (r : Reading) : Option Waiting := r.waiting.filter fun w => w.given.isNone

def cutAt (c : Char) (s : List Char) : String × Option String :=
  match s.dropWhile (· != c) with
  | [] => (String.ofList s, none)
  | _ :: rest => (String.ofList (s.takeWhile (· != c)), some (String.ofList rest))

def readArgument (c : CommandSpec) (r : Reading) (word : String) : Except UsageError Reading :=
  match c.arguments[r.arguments]? with
  | some (name, kind, _) => do
    let r ← settle r
    return { r with waiting := some ⟨name, .value kind, some word⟩, arguments := r.arguments + 1 }
  | none =>
    if c.subcommands.isEmpty || (r.plain && c.subcommands.contains word) then .error .unknownArgument
    else .error .invalidSubcommand

def readWord (c : CommandSpec) (r : Reading) (word : String) : Except UsageError Reading :=
  if r.plain then readArgument c r word
  else
    match openOption r with
    | some w =>
      if w.form == .anyValue then .ok { r with waiting := some { w with given := some word } }
      else match word.toList with
        | ['-', '-'] => .ok { r with plain := true }
        | '-' :: '-' :: name => let (n, v) := cutAt '=' name; readLong c r n v
        | '-' :: letter :: rest => readLetters c r (letter :: rest)
        | _ => .ok { r with waiting := some { w with given := some word } }
    | none =>
      match word.toList with
      | ['-', '-'] => .ok { r with plain := true }
      | '-' :: '-' :: name => let (n, v) := cutAt '=' name; readLong c r n v
      | '-' :: letter :: rest => readLetters c r (letter :: rest)
      | _ => readArgument c r word

def readWords (c : CommandSpec) (r : Reading) :
    List String → Except UsageError (Reading × Option (String × List String))
  | [] => .ok (r, none)
  | word :: rest =>
    if !r.plain && (openOption r).isNone && c.subcommands.contains word then .ok (r, some (word, rest))
    else do
      let r ← readWord c r word
      readWords c r rest

def helpTopic : List String → UsageError
  | [] => .displayHelp none
  | [name] => if top.subcommands.contains name then .displayHelp (some name) else .invalidSubcommand
  | _ => .invalidSubcommand

def readCommand (c : CommandSpec) (words : List String) : Except UsageError Reading := do
  let (r, _) ← readWords c Reading.start words
  let r ← settle r
  if r.arguments < c.arguments.length then throw .missingRequiredArgument
  return r

def parseVariable (form : OptionForm) (s : String) : Except UsageError Value :=
  match form with
  | .value kind => parseValue kind s
  | .anyValue => .ok (.text s)
  | _ => if s == "true" then .ok (.flag true) else if s == "false" then .ok (.flag false) else .error .invalidValue

def readEnvironment (env : Environment) (r : Reading) : List OptionSpec → Except UsageError Reading
  | [] => .ok r
  | o :: rest =>
    match o.envName.bind env.get?, r.get? o.name with
    | some s, none => do
      let v ← parseVariable o.form s
      readEnvironment env { r with values := r.values ++ [(o.name, v)] } rest
    | _, _ => readEnvironment env r rest

def readLine (env : Environment) (words : List String) : Except UsageError (Reading × String × Reading) := do
  let (r, command?) ← readWords top Reading.start words
  match command? with
  | none =>
    let r ← readEnvironment env (← settle r) options
    if r.values.isEmpty then throw .nothingGiven else throw .missingSubcommand
  | some (name, rest) =>
    match commands.find? fun c => c.name == name with
    | none => throw (helpTopic rest)
    | some c =>
      let inner ← readCommand c rest
      let r ← readEnvironment env (← settle r) options
      return (r, name, inner)

end RemoteExec.CommandLine

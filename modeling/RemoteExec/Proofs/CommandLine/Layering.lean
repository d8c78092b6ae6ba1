import Mathlib.Data.List.DropRight
import Mathlib.Tactic.Common
import RemoteExec.CommandLine.Config
import RemoteExec.Proofs.Files.Appending

namespace RemoteExec

theorem Json.lookup_insert (asked name : String) (value : Json) (entries : Entries) :
    Json.lookup asked (Json.insert name value entries) = if name = asked then some value else Json.lookup asked entries := by
  induction entries with
  | nil => rfl
  | cons entry rest ih =>
    obtain ⟨n, v⟩ := entry
    unfold Json.insert
    by_cases same : name = n
    · subst same
      rw [if_pos rfl, Json.lookup, Json.lookup]
      by_cases here : name = asked
      · rw [if_pos here, if_pos here]
      · rw [if_neg here, if_neg here, if_neg here]
    · rw [if_neg same]
      by_cases less : name < n
      · rw [if_pos less]
        rfl
      · rw [if_neg less, Json.lookup, Json.lookup, ih]
        by_cases here : n = asked
        · rw [if_pos here, if_pos here, if_neg fun other => same (other.trans here.symm)]
        · rw [if_neg here, if_neg here]

namespace Options

variable {entries others : Entries} {name : String}

theorem switch?_same (same : Json.lookup name entries = Json.lookup name others) :
    switch? entries name = switch? others name := by
  unfold switch?
  rw [same]

theorem natural?_same (same : Json.lookup name entries = Json.lookup name others) :
    natural? entries name = natural? others name := by
  unfold natural?
  rw [same]

theorem number?_same (same : Json.lookup name entries = Json.lookup name others) :
    number? entries name = number? others name := by
  unfold number?
  rw [same]

end Options

namespace CommandLine

variable {file other : Entries} {a : Arguments}

theorem layered_append (first second : Entries) :
    layered file (first ++ second) = layered (layered file first) second := by
  rw [layered, List.foldl_append]
  rfl

theorem lookup_given (asked name : String) {α : Type} (shape : α → Json) (given : Option α) :
    Json.lookup asked (layered file (given.map fun v => (name, shape v)).toList) =
      if name = asked then (given.map shape).or (Json.lookup asked file) else Json.lookup asked file := by
  cases given with
  | none => simp [layered]
  | some v => simp [layered, Json.lookup_insert]

theorem lookup_fixed (asked name : String) (given : Prop) [Decidable given] (v : Json) :
    Json.lookup asked (layered file (if given then [(name, v)] else [])) =
      if name = asked then (if given then some v else none).or (Json.lookup asked file) else Json.lookup asked file := by
  by_cases there : given
  · simp [layered, there, Json.lookup_insert]
  · simp [layered, there]

-- The flags put nothing, or this one value, under a name.
def Put (name : String) (given : Option Json) (a : Arguments) : Prop :=
  ∀ file, Json.lookup name (layered file (flagEntries a)) = given.or (Json.lookup name file)

-- One connection option: its name in the options file, what its flag comes to if it was given, what entries
-- come to, and the place it has among the options.
structure Field (α : Type) where
  name : String
  flag : Arguments → Option (Except Failure α)
  read : Entries → Except Failure α
  value : Options → α

namespace Field

def outcome (f : Field α) (a : Arguments) (file : Entries) : Except Failure α := (f.flag a).getD (f.read file)

def text (name : String) (flag : Arguments → Option String) (value : Options → Option String) : Field (Option String) where
  name := name
  flag := fun a => (flag a).map fun s => .ok (if s.isEmpty then none else some s)
  read := fun entries => Options.text? entries name
  value := value

def path (name : String) (flag : Arguments → Option Bytes) (value : Options → Option String) : Field (Option String) :=
  text name (fun a => (flag a).map Bytes.lossy) value

def bared : Option String → Option String
  | none => none
  | some s =>
    if s.toList.all Text.isBlank then none
    else some (String.ofList ((s.toList.dropWhile Text.isBlank).rdropWhile Text.isBlank))

def password : Field (Option String) := text "password" (fun a => bared a.password) Options.password

def switch (name : String) (flag : Arguments → Bool) (forced unset : Bool) (value : Options → Bool) : Field Bool where
  name := name
  flag := fun a => if flag a then some (.ok forced) else none
  read := fun entries => (Options.switch? entries name).map (·.getD unset)
  value := value

def port : Field (Option Nat) where
  name := "port"
  flag := fun a => a.port.map fun n =>
    if n < 65536 then .ok (some n) else .error (.config ("invalid port " ++ toString n))
  read := fun entries => Options.natural? entries "port" >>= Options.portOf
  value := Options.port

def span (x : Decimal.Binary64) : Except Failure Duration :=
  (Duration.ofSeconds x).mapError fun why => .config ("invalid timeout " ++ x.positional ++ ": " ++ why)

def timeout : Field Duration where
  name := "timeout"
  flag := fun a => a.timeout.map span
  read := fun entries => Options.number? entries "timeout" >>= fun x? => x?.elim (.ok (Duration.ofSecs 10)) span
  value := Options.timeout

-- Flags count up to a byte's range, and a number in the file is cut to it.
def verbosity : Field Nat where
  name := "verbosity"
  flag := fun a => if 0 < a.verbose then some (.ok (min a.verbose 255)) else none
  read := fun entries => (Options.natural? entries "verbosity").map fun n? => (n?.map (min · 255)).getD 0
  value := Options.verbosity

end Field

namespace Field

end Field

def fields : List (Sigma Field) := [
  ⟨_, .text "remote_addr" (·.host) (some ·.remoteAddr)⟩,
  ⟨_, .text "remote_user" (·.user) (·.remoteUser)⟩,
  ⟨_, .port⟩,
  ⟨_, .password⟩,
  ⟨_, .text "password_prompt" (·.passwordPrompt) (·.passwordPrompt)⟩,
  ⟨_, .path "private_key_file" (·.key) (·.privateKeyFile)⟩,
  ⟨_, .text "proxy_command" (·.proxyCommand) (·.proxyCommand)⟩,
  ⟨_, .text "ssh_args" (fun _ => none) (·.sshArgs)⟩,
  ⟨_, .text "ssh_common_args" (·.sshCommonArgs) (·.sshCommonArgs)⟩,
  ⟨_, .text "ssh_extra_args" (·.sshExtraArgs) (·.sshExtraArgs)⟩,
  ⟨_, .text "publickey_accepted_algorithms" (·.publickeyAlgorithms) (·.publickeyAcceptedAlgorithms)⟩,
  ⟨_, .text "hostkeys" (·.hostkeys) (·.hostkeys)⟩,
  ⟨_, .path "config_file" (·.configFile) (·.configFile)⟩,
  ⟨_, .path "known_hosts_file" (·.knownHosts) (·.knownHostsFile)⟩,
  ⟨_, .switch "host_key_checking" (·.noHostKeyChecking) false true (·.hostKeyChecking)⟩,
  ⟨_, .switch "host_key_auto_add" (·.hostKeyAutoAdd) true false (·.hostKeyAutoAdd)⟩,
  ⟨_, .switch "look_for_keys" (·.noLookForKeys) false true (·.lookForKeys)⟩,
  ⟨_, .switch "pty" (·.noPty) false true (·.pty)⟩,
  ⟨_, .switch "use_persistent_connections" (·.persistent) true false (·.persistent)⟩,
  ⟨_, .timeout⟩,
  ⟨_, .verbosity⟩]

structure Field.Covered (f : Field α) (a : Arguments) : Prop where
  read : ∀ file, f.read (layered file (flagEntries a)) = f.outcome a file
  hides : (f.flag a).isSome → ∀ file other,
    Json.lookup f.name (layered file (flagEntries a)) = Json.lookup f.name (layered other (flagEntries a))

theorem Put.covers {f : Field α} {given : Option β} {shape : β → Json} (sense : β → Except Failure α)
    (put : Put f.name (given.map shape) a) (flag : f.flag a = given.map sense)
    (same : ∀ {entries others}, Json.lookup f.name entries = Json.lookup f.name others → f.read entries = f.read others)
    (reads : ∀ {v entries}, Json.lookup f.name entries = some (shape v) → f.read entries = sense v) : f.Covered a := by
  cases given with
  | none =>
    constructor
    case read =>
      intro file
      rw [Field.outcome, flag]
      exact same (put file)
    case hides =>
      intro given
      rw [flag] at given
      cases given
  | some v =>
    constructor
    case read =>
      intro file
      rw [Field.outcome, flag]
      exact reads (put file)
    case hides =>
      intro _ file other
      exact (put file).trans (put other).symm

theorem textOf_same {name : String} (same : Json.lookup name file = Json.lookup name other) :
    textOf file name = textOf other name := by
  unfold textOf
  rw [same]

namespace Layered

def files : FileSystem :=
  FileSystem.empty.put ["tmp", "options"]
    (.file (Bytes.ofString "\x7b\"port\": \"none\", \"pty\": false\x7d") FileSystem.fileMode)

def line : Arguments where
  host := "web"
  port := some 2222
  user := none
  password := some " "
  passwordPrompt := none
  key := none
  proxyCommand := none
  sshCommonArgs := none
  sshExtraArgs := none
  noHostKeyChecking := false
  hostKeyAutoAdd := false
  noLookForKeys := false
  noPty := false
  persistent := true
  timeout := none
  configFile := none
  hostkeys := none
  publickeyAlgorithms := none
  knownHosts := some [107, 0xFF]
  optionsFile := some (Bytes.ofString "/tmp/options")
  verbose := 0
  become := false
  becomeUser := "root"
  becomePassword := none
  json := false
  operation := .exec "true"

def config : Config where
  options := { Options.ofAddr "web" with
    port := some 2222, pty := false, persistent := true, knownHostsFile := some "k\uFFFD" }
  task := .exec "true"
  become := none
  json := false

end Layered

end CommandLine
end RemoteExec

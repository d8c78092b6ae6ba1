import RemoteExec.Proofs.CommandLine.Layering
import RemoteExec.Proofs.Files.Hiding
import RemoteExec.Proofs.Json.Objects
import RemoteExec.Proofs.Options.Refusals

namespace RemoteExec

namespace Options

def textNames : List String :=
  ["remote_addr", "remote_user", "password", "password_prompt", "private_key_file", "proxy_command", "ssh_args",
    "ssh_common_args", "ssh_extra_args", "publickey_accepted_algorithms", "hostkeys", "config_file", "known_hosts_file"]

def isVoid (entry : String × Json) : Bool :=
  textNames.contains entry.1 && match entry.2 with
    | .str s => s.isEmpty
    | _ => false

def withoutVoids (entries : Entries) : Entries := entries.filter fun entry => !isVoid entry

-- What is found under a name, and what of it is left: all, or nothing of an empty text or path.
inductive Emptied (name : String) : Option Json → Option Json → Prop where
  | same (found : Option Json) : Emptied name found found
  | void (text : name ∈ textNames) : Emptied name (some (.str "")) none

def Voided (entries others : Entries) : Prop :=
  ∀ name, Emptied name (Json.lookup name entries) (Json.lookup name others)

variable {entries others : Entries} {name : String}

theorem isVoid_iff (name : String) (v : Json) : isVoid (name, v) = true ↔ name ∈ textNames ∧ v = .str "" := by
  cases v with
  | str s => simp [isVoid]
  | null => simp [isVoid]
  | bool b => simp [isVoid]
  | num n => simp [isVoid]
  | arr items => simp [isVoid]
  | obj entries => simp [isVoid]

theorem withoutVoids_voided (sorted : Json.Sorted entries) : Voided entries (withoutVoids entries) := by
  intro name
  rw [withoutVoids, Json.lookup_filter sorted]
  cases Json.lookup name entries with
  | none => exact Emptied.same none
  | some v =>
      by_cases void : isVoid (name, v) = true
      · obtain ⟨text, empty⟩ := (isVoid_iff name v).mp void
        rw [Option.filter_some, void, empty]
        exact Emptied.void text
      · rw [Option.filter_some, Bool.eq_false_iff.mpr void]
        exact Emptied.same (some v)

theorem withoutVoids_visible (sorted : Json.Sorted entries) (text : name ∈ textNames) :
    Json.lookup name (withoutVoids entries) ≠ some (.str "") := by
  rw [withoutVoids, Json.lookup_filter sorted]
  intro left
  have kept := (Option.filter_eq_some_iff.mp left).2
  rw [(isVoid_iff name _).mpr ⟨text, rfl⟩] at kept
  cases kept

theorem Voided.insert (voided : Voided entries others) (name : String) (v : Json) :
    Voided (Json.insert name v entries) (Json.insert name v others) := by
  intro asked
  rw [Json.lookup_insert, Json.lookup_insert]
  by_cases here : name = asked
  · rw [if_pos here, if_pos here]
    exact Emptied.same (some v)
  · rw [if_neg here, if_neg here]
    exact voided asked

theorem Voided.layered (voided : Voided entries others) (flags : Entries) :
    Voided (CommandLine.layered entries flags) (CommandLine.layered others flags) := by
  induction flags generalizing entries others with
  | nil => exact voided
  | cons flag rest ih => exact ih (voided.insert flag.1 flag.2)

theorem Voided.text (voided : Voided entries others) (name : String) : text? entries name = text? others name := by
  have emptied := voided name
  unfold text?
  generalize Json.lookup name entries = found at emptied ⊢
  generalize Json.lookup name others = left at emptied ⊢
  cases emptied with
  | same => rfl
  | void => rfl

theorem Voided.kept (voided : Voided entries others) (other : name ∉ textNames) :
    Json.lookup name entries = Json.lookup name others := by
  have emptied := voided name
  generalize Json.lookup name entries = found at emptied ⊢
  generalize Json.lookup name others = left at emptied ⊢
  cases emptied with
  | same => rfl
  | void text => exact absurd text other

theorem Voided.options (voided : Voided entries others) : ofEntries entries = ofEntries others := by
  have switches : ∀ name, name ∉ textNames → switch? entries name = switch? others name :=
    fun _ other => switch?_same (voided.kept other)
  have naturals : ∀ name, name ∉ textNames → natural? entries name = natural? others name :=
    fun _ other => natural?_same (voided.kept other)
  have numbers : ∀ name, name ∉ textNames → number? entries name = number? others name :=
    fun _ other => number?_same (voided.kept other)
  unfold ofEntries
  simp only [voided.text, naturals "port" (by decide), naturals "verbosity" (by decide), numbers "timeout" (by decide),
    switches "host_key_checking" (by decide), switches "host_key_auto_add" (by decide),
    switches "look_for_keys" (by decide), switches "pty" (by decide), switches "use_persistent_connections" (by decide)]

end Options

namespace CommandLine

section Complaints

variable {file other entries others : Entries} {fs : FileSystem} {a : Arguments}

def addressComplaints (entries : Entries) : List String :=
  if ((textOf entries "remote_addr").filter (!·.isEmpty)).isNone then ["Missing required --host"] else []

def keyComplaints (fs : FileSystem) (entries : Entries) : List String :=
  match textOf entries "private_key_file" with
  | some key => if !fs.exists? key && key.toList.head? != some '~' then ["SSH key file not found: " ++ key] else []
  | none => []

def flagComplaints (a : Arguments) : List String :=
  (match a.timeout with
    | some x => if isPositive x then [] else ["--timeout must be a positive number, got " ++ x.positional]
    | none => []) ++
  (if a.becomePassword.isSome && !a.become then ["--become-password requires --become"] else [])

theorem complaints_eq (fs : FileSystem) (a : Arguments) (entries : Entries) :
    complaints fs a entries = addressComplaints entries ++ (keyComplaints fs entries ++ flagComplaints a) := by
  unfold complaints addressComplaints keyComplaints flagComplaints
  exact (List.append_assoc _ _ _).trans (List.append_assoc _ _ _)

theorem addressComplaints_voided (voided : Options.Voided entries others) :
    addressComplaints entries = addressComplaints others := by
  have emptied := voided "remote_addr"
  unfold addressComplaints textOf
  generalize Json.lookup "remote_addr" entries = found at emptied ⊢
  generalize Json.lookup "remote_addr" others = left at emptied ⊢
  cases emptied with
  | same => rfl
  | void => rfl

theorem exists_nameless (fs : FileSystem) : fs.exists? "" = false := rfl

theorem keyComplaints_void (fs : FileSystem) (void : Json.lookup "private_key_file" entries = some (.str "")) :
    keyComplaints fs entries = ["SSH key file not found: "] := by
  rw [keyComplaints, textOf, void]
  dsimp only
  rw [exists_nameless]
  rfl

theorem keyComplaints_none (fs : FileSystem) (absent : Json.lookup "private_key_file" entries = none) :
    keyComplaints fs entries = [] := by
  rw [keyComplaints, textOf, absent]

theorem keyComplaints_same (fs : FileSystem)
    (same : Json.lookup "private_key_file" entries = Json.lookup "private_key_file" others) :
    keyComplaints fs entries = keyComplaints fs others := by
  rw [keyComplaints, keyComplaints, textOf_same same]

theorem key_put (a : Arguments) : Put "private_key_file" ((a.key.map Bytes.lossy).map Json.str) a := by
  intro file
  unfold flagEntries
  simp [layered_append, lookup_given, lookup_fixed, -Option.map_map]

end Complaints

section Outcomes

variable {fs : FileSystem} {a : Arguments} {file other : Entries}

theorem ofEntries_complaining (wrong : complaints fs a (layered file (flagEntries a)) ≠ []) :
    Config.ofEntries fs file a =
      .error (.config ("\n".intercalate (complaints fs a (layered file (flagEntries a))))) := by
  unfold Config.ofEntries
  simp only [List.isEmpty_eq_false_iff.mpr wrong]
  rfl

theorem ofName_fails (name : String) : Fails (fun e => e = .unsupportedProtocol name) (TransferProtocol.ofName name) := by
  unfold TransferProtocol.ofName
  split
  next => exact Fails.ok _
  next =>
    split
    next => exact Fails.ok _
    next => exact Fails.error rfl

theorem ofOperation_fails (operation : Operation) :
    Fails (fun e => ∃ name, e = .unsupportedProtocol name) (Task.ofOperation operation) := by
  cases operation with
  | exec command => exact Fails.ok _
  | put source target protocol =>
      exact ((ofName_fails protocol).weaken fun _ named => ⟨protocol, named⟩).map _
  | fetch source target protocol =>
      exact ((ofName_fails protocol).weaken fun _ named => ⟨protocol, named⟩).map _

theorem ofEntries_quiet (flawless : complaints fs a (layered file (flagEntries a)) = []) :
    Fails (fun e => Options.Refusal e ∨ ∃ name, e = .unsupportedProtocol name) (Config.ofEntries fs file a) := by
  unfold Config.ofEntries
  simp only [flawless, List.isEmpty_nil, if_true]
  refine Fails.bind ((Options.ofEntries_fails _).weaken fun _ => Or.inl) fun options => ?_
  exact Fails.bind ((ofOperation_fails a.operation).weaken fun _ => Or.inr) fun task => Fails.ok _

theorem length_joined (first : String) {rest : List String} (given : rest ≠ []) :
    ("\n".intercalate (first :: rest)).length = first.length + 1 + ("\n".intercalate rest).length := by
  obtain ⟨second, later, same⟩ := List.exists_cons_of_ne_nil given
  rw [same, String.intercalate_cons_cons, String.length_append, String.length_append]
  rfl

theorem joined_longer (text : String) {before after : List String} (given : before ++ after ≠ []) :
    ("\n".intercalate (before ++ after)).length < ("\n".intercalate (before ++ text :: after)).length := by
  induction before with
  | nil =>
      have longer := length_joined text given
      rw [List.nil_append] at longer
      rw [List.nil_append, List.nil_append]
      omega
  | cons first rest ih =>
      have given_more : rest ++ text :: after ≠ [] := List.append_ne_nil_of_right_ne_nil _ (List.cons_ne_nil _ _)
      rw [List.cons_append, List.cons_append, length_joined first given_more]
      by_cases alone : rest ++ after = []
      · rw [alone, String.intercalate_singleton]
        omega
      · rw [length_joined first alone]
        exact Nat.add_lt_add_left (ih alone) _

theorem outcomes_differ (voided : Options.Voided (layered file (flagEntries a)) (layered other (flagEntries a)))
    (void : Json.lookup "private_key_file" (layered file (flagEntries a)) = some (.str ""))
    (gone : Json.lookup "private_key_file" (layered other (flagEntries a)) = none) :
    Config.ofEntries fs other a ≠ Config.ofEntries fs file a := by
  have whole := complaints_eq fs a (layered file (flagEntries a))
  have rest := complaints_eq fs a (layered other (flagEntries a))
  rw [keyComplaints_void fs void, addressComplaints_voided voided] at whole
  rw [keyComplaints_none fs gone, List.nil_append] at rest
  generalize addressComplaints (layered other (flagEntries a)) = before at whole rest
  generalize flagComplaints a = after at whole rest
  have complains : complaints fs a (layered file (flagEntries a)) ≠ [] := by simp [whole]
  rw [ofEntries_complaining complains]
  intro same
  by_cases quiet : before ++ after = []
  · obtain ⟨nothing_before, nothing_after⟩ := List.append_eq_nil_iff.mp quiet
    rw [whole, nothing_before, nothing_after] at same
    cases ofEntries_quiet (rest.trans quiet) _ same with
    | inl refused =>
        obtain ⟨c, small, begins⟩ := refused.begins
        have capital : 'S' = c := Option.some.inj begins
        rw [← capital] at small
        exact absurd small (by decide)
    | inr protocol =>
        obtain ⟨name, named⟩ := protocol
        cases named
  · have left : complaints fs a (layered other (flagEntries a)) ≠ [] := by rwa [rest]
    rw [ofEntries_complaining left] at same
    have joined := Failure.config.inj (Except.error.inj same)
    have longer := joined_longer "SSH key file not found: " quiet
    rw [whole, rest, List.singleton_append] at joined
    rw [joined] at longer
    exact absurd longer (Nat.lt_irrefl _)

end Outcomes

section Deletion

variable {fs cleaned : FileSystem} {a : Arguments} {file other : Entries}

theorem key_layered (a : Arguments) (file : Entries) :
    Json.lookup "private_key_file" (layered file (flagEntries a)) =
      ((a.key.map Bytes.lossy).map Json.str).or (Json.lookup "private_key_file" file) :=
  key_put a file

theorem fileEntries_sorted (read : fileEntries fs a = .ok file) : Json.Sorted file := by
  unfold fileEntries at read
  cases given : a.optionsFile with
  | none =>
      rw [given] at read
      cases read
      exact List.Pairwise.nil
  | some path =>
      rw [given] at read
      dsimp only at read
      rw [readOptionsFile] at read
      split at read
      next => cases read
      next =>
        split at read
        next entries parsed =>
          cases read
          exact Json.parse?_sorted parsed
        next => cases read
        next => cases read

theorem config_voided_same (voided : Options.Voided (layered file (flagEntries a)) (layered other (flagEntries a)))
    (same : Json.lookup "private_key_file" (layered file (flagEntries a)) =
      Json.lookup "private_key_file" (layered other (flagEntries a))) :
    Config.ofEntries fs other a = Config.ofEntries fs file a := by
  unfold Config.ofEntries
  simp only [complaints_eq, addressComplaints_voided voided, keyComplaints_same fs same, voided.options]

theorem config_emptied_iff (sorted : Json.Sorted file) :
    Config.ofEntries fs (Options.withoutVoids file) a = Config.ofEntries fs file a ↔
      a.key.isSome ∨ Json.lookup "private_key_file" file ≠ some (.str "") := by
  have voided := Options.withoutVoids_voided sorted
  have above := voided.layered (flagEntries a)
  have found := key_layered a file
  have left := key_layered a (Options.withoutVoids file)
  cases given : a.key with
  | some key =>
      rw [given] at found left
      exact iff_of_true (config_voided_same above (found.trans left.symm)) (Or.inl rfl)
  | none =>
      rw [given, Option.map_none, Option.map_none, Option.none_or] at found left
      have emptied := voided "private_key_file"
      have visible := Options.withoutVoids_visible sorted (show "private_key_file" ∈ Options.textNames by decide)
      generalize Json.lookup "private_key_file" file = here at emptied found ⊢
      generalize Json.lookup "private_key_file" (Options.withoutVoids file) = there at emptied left visible
      cases emptied with
      | void text => exact iff_of_false (outcomes_differ above found left) (by simp)
      | same => exact iff_of_true (config_voided_same above (found.trans left.symm)) (Or.inr visible)

theorem ofArguments_read (read : fileEntries fs a = .ok file) : Config.ofArguments fs a = Config.ofEntries fs file a := by
  simp only [Config.ofArguments, read, bind, Except.bind]

theorem ofEntries_present (same : ∀ path, fs.exists? path = cleaned.exists? path) :
    Config.ofEntries cleaned file a = Config.ofEntries fs file a := by
  unfold Config.ofEntries complaints
  simp only [same]

def OptionsPlace (fs : FileSystem) (a : Arguments) (place : Place) : Prop :=
  ∃ path ∈ a.optionsFile, ∃ name, path.toString? = some name ∧ fs.locate name = .ok place

theorem emptied_unseen_iff (alike : fs.Alike (OptionsPlace fs a) cleaned) (read : fileEntries fs a = .ok file)
    (emptied : fileEntries cleaned a = .ok (Options.withoutVoids file)) :
    Options.ofEntries (layered (Options.withoutVoids file) (flagEntries a)) =
        Options.ofEntries (layered file (flagEntries a)) ∧
      (Config.ofArguments cleaned a = Config.ofArguments fs a ↔
        a.key.isSome ∨ Json.lookup "private_key_file" file ≠ some (.str "")) := by
  have voided := Options.withoutVoids_voided (fileEntries_sorted read)
  constructor
  · exact (voided.layered (flagEntries a)).options.symm
  · rw [ofArguments_read read, ofArguments_read emptied, ofEntries_present alike.present]
    exact config_emptied_iff (fileEntries_sorted read)

end Deletion

namespace Unset

def holding (text : String) : FileSystem :=
  FileSystem.empty.put ["tmp", "options"] (.file (Bytes.ofString text) FileSystem.fileMode)

def voids : String := "\x7b\"password\": \"\", \"private_key_file\": \"\", \"pty\": \"\"\x7d"

def noVoids : String := "\x7b\"pty\": \"\"\x7d"

def entries : Entries := [("password", .str ""), ("private_key_file", .str ""), ("pty", .str "")]

variable {a : Arguments} (given : a.optionsFile = some (Bytes.ofString "/tmp/options"))
include given

theorem fileEntries_holding {text : String} {file : Entries} (found : (holding text).readText "/tmp/options" = .ok text)
    (parsed : Json.parse? text = some (.obj file)) : fileEntries (holding text) a = .ok file := by
  rw [fileEntries, given]
  dsimp only
  rw [readOptionsFile, Bytes.toString_ofString, Option.elim_some, found]
  dsimp only
  rw [parsed]

theorem voids_read : fileEntries (holding voids) a = .ok entries := by
  have parsed : Json.parse? voids = some (.obj entries) := by
    simp only [Json.parse?, voids, String.reduceToList]
    rfl
  exact fileEntries_holding given (by decide +kernel) parsed

theorem noVoids_read : fileEntries (holding noVoids) a = .ok (Options.withoutVoids entries) := by
  have parsed : Json.parse? noVoids = some (.obj (Options.withoutVoids entries)) := by
    simp only [Json.parse?, noVoids, String.reduceToList]
    rfl
  exact fileEntries_holding given (by decide +kernel) parsed

theorem holding_alike (text other : String) :
    (holding text).Alike (OptionsPlace (holding text) a) (holding other) := by
  have located : FileSystem.empty.locate "/tmp/options" = .ok ["tmp", "options"] := by decide +kernel
  have vacant : ∀ bits, FileSystem.empty.nodeAt? ["tmp", "options"] ≠ some (.dir bits) := by
    intro bits there
    cases there
  have here : OptionsPlace (holding text) a ["tmp", "options"] := by
    refine ⟨Bytes.ofString "/tmp/options", ?_, _, Bytes.toString_ofString _, FileSystem.locate_put vacant _ located⟩
    rw [given]
    rfl
  exact (FileSystem.Alike.refl _ FileSystem.empty).put (Node.Alike.content _ _ _ here)

end Unset

def keyed : Arguments := { Layered.line with key := some (Bytes.ofString "/tmp/options") }

theorem voids_under_key :
    fileEntries (Unset.holding Unset.voids) keyed = .ok Unset.entries ∧
    fileEntries (Unset.holding Unset.noVoids) keyed = .ok (Options.withoutVoids Unset.entries) ∧
    Config.ofArguments (Unset.holding Unset.noVoids) keyed = Config.ofArguments (Unset.holding Unset.voids) keyed := by
  have given : keyed.optionsFile = some (Bytes.ofString "/tmp/options") := rfl
  have read := Unset.voids_read given
  have emptied := Unset.noVoids_read given
  have alike := Unset.holding_alike given Unset.voids Unset.noVoids
  exact ⟨read, emptied, (emptied_unseen_iff alike read emptied).2.mpr (Or.inl rfl)⟩

theorem empty_key_refused :
    fileEntries (Unset.holding Unset.voids) Layered.line = .ok Unset.entries ∧
    fileEntries (Unset.holding Unset.noVoids) Layered.line = .ok (Options.withoutVoids Unset.entries) ∧
    Config.ofArguments (Unset.holding Unset.voids) Layered.line = .error (.config "SSH key file not found: ") ∧
    Config.ofArguments (Unset.holding Unset.noVoids) Layered.line = .ok Layered.config :=
  ⟨Unset.voids_read rfl, Unset.noVoids_read rfl, by decide +kernel, by decide +kernel⟩

end CommandLine
end RemoteExec

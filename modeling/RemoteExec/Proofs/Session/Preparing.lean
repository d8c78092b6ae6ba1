import RemoteExec.Proofs.Session.Steps

namespace RemoteExec

variable {σ α β : Type}

def Op.Reads (op : Op σ α) (outcome : FileSystem → Except Failure α) : Prop :=
  ∀ o : Outside σ, ∃ told, op o = (outcome o.files, o.tell told)

namespace Op.Reads

theorem pure (x : α) : Reads (Pure.pure x : Op σ α) fun _ => .ok x := fun o => ⟨[], by simp [Outside.tell]⟩

theorem throw (e : Failure) : Reads (MonadExcept.throw e : Op σ α) fun _ => .error e :=
  fun o => ⟨[], by simp [Outside.tell]⟩

theorem tells (events : List Event) : Reads (modify fun o => o.tell events : Op σ PUnit) fun _ => .ok ⟨⟩ :=
  fun _ => ⟨events, rfl⟩

theorem bind {first : Op σ α} {rest : α → Op σ β} {f : FileSystem → Except Failure α}
    {g : α → FileSystem → Except Failure β} (reads : Reads first f) (later : ∀ x, Reads (rest x) (g x)) :
    Reads (first >>= rest) fun files => (f files).bind fun x => g x files := by
  intro o
  obtain ⟨told, ran⟩ := reads o
  rw [run_bind, ran]
  cases outcome : f o.files with
  | error e => exact ⟨told, by simp only [outcome, Except.bind]⟩
  | ok x =>
      obtain ⟨more, followed⟩ := later x (o.tell told)
      refine ⟨told ++ more, ?_⟩
      simp only [outcome, Except.bind]
      rw [followed]
      simp only [Outside.tell, List.append_assoc]

theorem after {first : Op σ PUnit} {rest : Op σ α} {f : FileSystem → Except Failure α}
    (silent : Reads first fun _ => .ok ⟨⟩) (later : Reads rest f) : Reads (first >>= fun _ => rest) f :=
  silent.bind fun _ => later

end Op.Reads

namespace Connection

def requestOf (c : Connection) (user : String) (proxy : Option String) (key : Option Bytes) : Request where
  host := c.options.remoteAddr.lowercase
  port := c.options.effectivePort
  user := user
  lookForKeys := c.options.lookForKeys
  checking := c.options.hostKeyChecking
  password := c.options.password
  passwordPrompt := c.options.passwordPrompt
  privateKey := key
  timeout := c.options.timeout
  proxyCommand := proxy
  configFile := c.options.configFile
  publickeyAcceptedAlgorithms := c.options.publickeyAcceptedAlgorithms
  hostkeys := c.options.hostkeys
  knownHostsFile := c.options.knownHostsFile
  verbose := decide (3 < c.options.verbosity)
  policy := c.policy

def request (lib : Library σ) (c : Connection) (user : String) (proxy : Option String) (key : Option Bytes) :
    Op σ Request := do
  if c.options.passwordPrompt.isSome && !lib.version.atLeast Version.passwordPrompt then
    throw (.missingDependency ("Configuring password prompt is not supported in " ++ lib.name ++ " version " ++
      lib.version.text ++ ". Please upgrade to " ++ lib.name ++ " " ++ Version.passwordPrompt.text ++ " or newer."))
  Op.tell .debug ("Connect request: " ++ (c.requestOf user proxy key).inspect)
  return c.requestOf user proxy key

def key? (c : Connection) : Op σ (Option Bytes) :=
  match c.options.privateKeyFile with
  | some path => some <$> c.readPrivateKey path
  | none => pure none

def route (c : Connection) (user : String) : Proxy.Route := ⟨c.options.remoteAddr, c.options.effectivePort, user⟩

theorem prepare_parts (lib : Library σ) {c : Connection} (available : c.hasLibrary = true) :
    c.prepare lib = (do
      Op.tell .info ("USING " ++ lib.name ++ " VERSION " ++ lib.version.text)
      let user ← prepare.liftExcept c.user
      Op.tell .info ("ESTABLISH SSH CONNECTION FOR USER: " ++ user ++ " on PORT " ++
        toString c.options.effectivePort ++ " TO " ++ c.options.remoteAddr)
      modify fun o => o.tell (Proxy.resolve c.options (c.route user)).2
      let key ← c.key?
      c.request lib user (Proxy.resolve c.options (c.route user)).1 key) := by
  unfold prepare
  rw [if_pos available]
  refine congrArg _ (funext fun _ => congrArg _ (funext fun user => ?_))
  change (do
    Op.tell .info ("ESTABLISH SSH CONNECTION FOR USER: " ++ user ++ " on PORT " ++
      toString c.options.effectivePort ++ " TO " ++ c.options.remoteAddr)
    modify fun o => o.tell (Proxy.resolve c.options (c.route user)).2
    match c.options.privateKeyFile with
    | some path => do
      let key ← some <$> c.readPrivateKey path
      c.request lib user (Proxy.resolve c.options (c.route user)).1 key
    | none => do
      let key ← pure none
      c.request lib user (Proxy.resolve c.options (c.route user)).1 key : Op σ Request) = _
  unfold key?
  cases c.options.privateKeyFile with
  | some path => rfl
  | none => rfl

variable {lib : Library σ} {c : Connection} {files : FileSystem}

def keyFrom (c : Connection) (files : FileSystem) : Except Failure (Option Bytes) :=
  match c.options.privateKeyFile with
  | none => .ok none
  | some path =>
    match files.read (expandHome c.environment path) with
    | .ok content => .ok (some content)
    | .error e => .error (if e.kind = .notFound then .fileNotFound (expandHome c.environment path) else .io e)

def libraryMissing : Failure :=
  .missingDependency "no SSH library is available; rebuild with the \x60russh\x60 feature"

def libraryOld (lib : Library σ) : Failure :=
  .missingDependency ("Configuring password prompt is not supported in " ++ lib.name ++ " version " ++
    lib.version.text ++ ". Please upgrade to " ++ lib.name ++ " " ++ Version.passwordPrompt.text ++ " or newer.")

def Outdated (lib : Library σ) (c : Connection) : Prop :=
  c.options.passwordPrompt.isSome = true ∧ lib.version.atLeast Version.passwordPrompt = false

instance (lib : Library σ) (c : Connection) : Decidable (Outdated lib c) := inferInstanceAs (Decidable (_ ∧ _))

def asks (lib : Library σ) (c : Connection) (files : FileSystem) : Except Failure Request :=
  if c.hasLibrary then
    c.user.bind fun user => (c.keyFrom files).bind fun key =>
      if Outdated lib c then .error (libraryOld lib)
      else .ok (c.requestOf user (Proxy.resolve c.options (c.route user)).1 key)
  else .error libraryMissing

inductive Hindered (lib : Library σ) (c : Connection) (files : FileSystem) : Prop where
  | libraryMissing (missing : c.hasLibrary = false)
  | userUnknown (e : Failure) (unknown : c.user = .error e)
  | keyUnread (path : String) (e : IoError) (named : c.options.privateKeyFile = some path)
      (unread : files.read (expandHome c.environment path) = .error e)
  | libraryOld (old : Outdated lib c)

theorem keyFrom_error_iff : (∃ e, c.keyFrom files = .error e) ↔
    ∃ path e, c.options.privateKeyFile = some path ∧ files.read (expandHome c.environment path) = .error e := by
  unfold keyFrom
  cases named : c.options.privateKeyFile with
  | none => simp
  | some path =>
      cases read : files.read (expandHome c.environment path) with
      | ok content => simp [read]
      | error e => simp [read]

theorem asks_ok_iff {r : Request} : c.asks lib files = .ok r ↔
    c.hasLibrary = true ∧ ¬ Outdated lib c ∧ ∃ user key, c.user = .ok user ∧ c.keyFrom files = .ok key ∧
      c.requestOf user (Proxy.resolve c.options (c.route user)).1 key = r := by
  cases available : c.hasLibrary with
  | false => simp [asks, available]
  | true =>
      cases known : c.user with
      | error e => simp [asks, available, known, Except.bind]
      | ok user =>
          cases read : c.keyFrom files with
          | error e => simp [asks, available, known, read, Except.bind]
          | ok key =>
              by_cases old : Outdated lib c
              · simp [asks, available, known, read, old, Except.bind]
              · simp [asks, available, known, read, old, Except.bind]

-- In which order the hindrances are met does not matter for whether there is one.
theorem asks_error_iff : (∃ e, c.asks lib files = .error e) ↔ c.Hindered lib files := by
  constructor
  · intro failed
    apply Classical.byContradiction
    intro free
    have available : c.hasLibrary = true := Bool.not_eq_false _ ▸ fun missing => free (.libraryMissing missing)
    have current : ¬ Outdated lib c := fun old => free (.libraryOld old)
    obtain ⟨user, known⟩ : ∃ user, c.user = .ok user := by
      cases known : c.user with
      | ok user => exact ⟨user, rfl⟩
      | error e => exact absurd (.userUnknown e known) free
    obtain ⟨key, read⟩ : ∃ key, c.keyFrom files = .ok key := by
      cases read : c.keyFrom files with
      | ok key => exact ⟨key, rfl⟩
      | error e =>
          obtain ⟨path, cause, named, unread⟩ := keyFrom_error_iff.mp ⟨e, read⟩
          exact absurd (.keyUnread path cause named unread) free
    obtain ⟨e, refused⟩ := failed
    cases refused.symm.trans (asks_ok_iff.mpr ⟨available, current, user, key, known, read, rfl⟩)
  · intro hindered
    cases asked : c.asks lib files with
    | error e => exact ⟨e, rfl⟩
    | ok r =>
        obtain ⟨available, current, user, key, known, read, _⟩ := asks_ok_iff.mp asked
        cases hindered with
        | libraryMissing missing => cases available.symm.trans missing
        | userUnknown e unknown => cases known.symm.trans unknown
        | keyUnread path e named unread =>
            obtain ⟨e, failed⟩ := keyFrom_error_iff.mpr ⟨path, e, named, unread⟩
            cases read.symm.trans failed
        | libraryOld old => exact absurd old current

theorem liftExcept_reads (outcome : Except Failure α) :
    Op.Reads (prepare.liftExcept outcome : Op σ α) fun _ => outcome := by
  cases outcome with
  | ok x => exact Op.Reads.pure x
  | error e => exact Op.Reads.throw e

theorem key_reads (c : Connection) : Op.Reads (c.key? : Op σ (Option Bytes)) c.keyFrom := by
  intro o
  unfold key? keyFrom
  cases c.options.privateKeyFile with
  | none => exact Op.Reads.pure none o
  | some path =>
      refine ⟨[⟨.debug, "Reading private key from " ++ expandHome c.environment path⟩], ?_⟩
      simp only [readPrivateKey, run_map, run_bind, Op.run_tell, run_get, Outside.tell]
      cases o.files.read (expandHome c.environment path) with
      | ok content => rfl
      | error e => rfl

theorem request_reads (lib : Library σ) (c : Connection) (user : String) (proxy : Option String)
    (key : Option Bytes) :
    Op.Reads (c.request lib user proxy key) fun _ =>
      if Outdated lib c then .error (libraryOld lib) else .ok (c.requestOf user proxy key) := by
  have spelled : (c.options.passwordPrompt.isSome && !lib.version.atLeast Version.passwordPrompt) = true ↔
      Outdated lib c := by simp [Outdated]
  unfold request
  by_cases old : Outdated lib c
  · rw [if_pos old, if_pos (spelled.mpr old)]
    exact Op.Reads.throw (libraryOld lib)
  · rw [if_neg old, if_neg (mt spelled.mp old)]
    exact fun _ => ⟨_, rfl⟩

theorem prepare_reads (lib : Library σ) (c : Connection) : Op.Reads (c.prepare lib) (c.asks lib) := by
  by_cases available : c.hasLibrary = true
  · have asked : c.asks lib = fun files => c.user.bind fun user => (c.keyFrom files).bind fun key =>
        if Outdated lib c then .error (libraryOld lib)
        else .ok (c.requestOf user (Proxy.resolve c.options (c.route user)).1 key) := by
      funext files
      rw [asks, if_pos available]
    rw [prepare_parts lib available, asked]
    apply Op.Reads.after (Op.Reads.tells _)
    apply (liftExcept_reads c.user).bind
    intro user
    apply Op.Reads.after (Op.Reads.tells _)
    apply Op.Reads.after (Op.Reads.tells _)
    apply (key_reads c).bind
    intro key
    exact request_reads lib c user _ key
  · have asked : c.asks lib = fun _ => .error libraryMissing := by
      funext files
      rw [asks, if_neg available]
    rw [asked]
    unfold prepare
    rw [if_neg available]
    exact Op.Reads.throw libraryMissing

end Connection
end RemoteExec

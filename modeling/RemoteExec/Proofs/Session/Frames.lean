import RemoteExec.Proofs.Session.Preparing
import RemoteExec.Session.Exec
import RemoteExec.Session.Transfer

namespace RemoteExec

variable {ε σ α : Type} {Q : σ → Prop}

def Outside.Has (Q : σ → Prop) (o : Outside σ) : Prop := Q o.lib

abbrev Op.Keeps (Q : σ → Prop) (op : ExceptT ε (StateM (Outside σ)) α) : Prop :=
  Leads (Outside.Has Q) op (Outside.Has Q)

structure Library.Keeps (lib : Library σ) (Q : σ → Prop) : Prop where
  dial : ∀ r o, Q o.lib → Q (lib.dial r o).2.lib
  establish : ∀ r, Op.Keeps Q (lib.establish r)
  newChannel : ∀ session, Op.Keeps Q (lib.newChannel session)
  openSftp : ∀ session, Op.Keeps Q (lib.openSftp session)
  openScp : ∀ session, Op.Keeps Q (lib.openScp session)
  closeSession : ∀ session, Op.Keeps Q (lib.closeSession session)
  requestPty : ∀ channel, Op.Keeps Q (lib.requestPty channel)
  start : ∀ channel command, Op.Keeps Q (lib.start channel command)
  send : ∀ channel data, Op.Keeps Q (lib.send channel data)
  receive : ∀ channel timeout limit, Op.Keeps Q (lib.receive channel timeout limit)
  exec : ∀ channel command, Op.Keeps Q (lib.exec channel command)
  finish : ∀ channel timeout, Op.Keeps Q (lib.finish channel timeout)
  closeChannel : ∀ channel, Op.Keeps Q (lib.closeChannel channel)
  sftpPut : ∀ handle source target, Op.Keeps Q (lib.sftpPut handle source target)
  sftpGet : ∀ handle source target, Op.Keeps Q (lib.sftpGet handle source target)
  closeSftp : ∀ handle, Op.Keeps Q (lib.closeSftp handle)
  scpPut : ∀ handle source target, Op.Keeps Q (lib.scpPut handle source target)
  scpGet : ∀ handle source target, Op.Keeps Q (lib.scpGet handle source target)

theorem Library.keeps_const (lib : Library σ) (p : Prop) : lib.Keeps fun _ => p := by
  constructor
  all_goals intros
  all_goals first
    | assumption
    | exact fun _ holds => holds

structure Library.KeepsOn (lib : Library σ) (Q : σ → Prop) (channel : ChannelId) : Prop where
  requestPty : Op.Keeps Q (lib.requestPty channel)
  start : ∀ command, Op.Keeps Q (lib.start channel command)
  send : ∀ data, Op.Keeps Q (lib.send channel data)
  receive : ∀ timeout limit, Op.Keeps Q (lib.receive channel timeout limit)
  exec : ∀ command, Op.Keeps Q (lib.exec channel command)
  finish : ∀ timeout, Op.Keeps Q (lib.finish channel timeout)

structure Library.KeepsClosing (lib : Library σ) (Q : σ → Prop) : Prop where
  sftp : ∀ handle, Op.Keeps Q (lib.closeSftp handle)
  channel : ∀ channel, Op.Keeps Q (lib.closeChannel channel)
  session : ∀ session, Op.Keeps Q (lib.closeSession session)

theorem Library.Keeps.on {lib : Library σ} (calls : lib.Keeps Q) (channel : ChannelId) : lib.KeepsOn Q channel :=
  ⟨calls.requestPty channel, calls.start channel, calls.send channel, calls.receive channel, calls.exec channel,
    calls.finish channel⟩

theorem Library.Keeps.closing {lib : Library σ} (calls : lib.Keeps Q) : lib.KeepsClosing Q :=
  ⟨calls.closeSftp, calls.closeChannel, calls.closeSession⟩

namespace Op

theorem tell_keeps (level : Level) (text : String) : Keeps Q (tell level text) := fun _ holds => holds

theorem throw_keeps (e : Failure) : Keeps Q (throw e : Op σ α) := fun _ holds => holds

theorem pure_keeps (x : α) : Keeps Q (pure x : Op σ α) := fun _ holds => holds

theorem get_keeps : Keeps Q (get : Op σ (Outside σ)) := fun _ holds => holds

end Op

namespace Connection

open Op

theorem prepare_keeps (lib : Library σ) (c : Connection) : Op.Keeps Q (c.prepare lib) := by
  intro o holds
  obtain ⟨told, ran⟩ := prepare_reads lib c o
  rw [ran]
  exact holds

variable {lib : Library σ}

theorem begin_keeps (dials : ∀ r o, Q o.lib → Q (lib.dial r o).2.lib) (c : Connection) : Op.Keeps Q (c.begin lib) := by
  refine Leads.keep (prepare_keeps lib c) fun r => Leads.keep ?_ fun _ => pure_keeps r
  exact fun o holds => dials r o holds

theorem complete_keeps (establishes : ∀ r, Op.Keeps Q (lib.establish r)) (c : Connection) (r : Request) :
    Op.Keeps Q (c.complete lib r) := by
  apply Leads.keep (Leads.attemptOp (establishes r))
  intro outcome
  cases outcome with
  | ok session => exact Leads.keep (tell_keeps _ _) fun _ => pure_keeps _
  | error e => exact Leads.keep (tell_keeps _ _) fun _ => throw_keeps _

theorem connectUncached_keeps (dials : ∀ r o, Q o.lib → Q (lib.dial r o).2.lib)
    (establishes : ∀ r, Op.Keeps Q (lib.establish r)) (c : Connection) : Op.Keeps Q (c.connectUncached lib) :=
  Leads.keep (begin_keeps dials c) fun r => complete_keeps establishes c r

variable {channel : ChannelId}

theorem watch_keeps (calls : lib.KeepsOn Q channel) (e : Escalation) (timeout : Duration) (fuel : Nat) (seen : Bytes) : Op.Keeps Q (watch lib e timeout channel fuel seen) := by
  induction fuel generalizing seen with
  | zero => exact throw_keeps _
  | succ fuel ih =>
      apply Leads.keep (tell_keeps _ _)
      intro _
      apply Leads.keep (calls.receive timeout readSize)
      intro piece
      cases piece with
      | none => exact throw_keeps _
      | some chunk =>
          apply Leads.keep (tell_keeps _ _)
          intro _
          by_cases empty : chunk.isEmpty = true
          · rw [if_pos empty]
            split
            · exact throw_keeps _
            · exact pure_keeps _
          · rw [if_neg empty]
            cases progress : e.scan (seen ++ chunk) with
            | waiting => simpa only [progress] using ih (seen ++ chunk)
            | success => simpa only [progress] using pure_keeps _
            | passwordPrompt => simpa only [progress] using pure_keeps _

theorem answerWatch_keeps (calls : lib.KeepsOn Q channel) (e : Escalation) (watched : Watch × Bytes) :
    Op.Keeps Q (answerWatch lib e channel watched) := by
  cases watched with
  | mk ended seen =>
      cases ended with
      | success => exact pure_keeps seen
      | closed => exact pure_keeps seen
      | passwordPrompt =>
          simp only [answerWatch]
          cases e.secret with
          | none => exact throw_keeps _
          | some secret => exact Leads.keep (calls.send _) fun _ => pure_keeps _

theorem negotiate_keeps (calls : lib.KeepsOn Q channel) (e : Escalation) (timeout : Duration) (command : String) :
    Op.Keeps Q (negotiate lib e timeout channel command) := by
  apply Leads.keep (calls.start _)
  intro _
  apply Leads.keep get_keeps
  intro o
  apply Leads.keep (watch_keeps calls e timeout _ [])
  intro watched
  apply Leads.keep (answerWatch_keeps calls e watched)
  intro output
  apply Leads.keep (calls.finish timeout)
  intro exit
  cases exit with
  | none => exact throw_keeps _
  | some exit => exact pure_keeps _

theorem runOn_keeps (calls : lib.KeepsOn Q channel) (c : Connection) (command : String) (sudoable : Bool) :
    Op.Keeps Q (c.runOn lib channel command sudoable) := by
  unfold runOn
  extract_lets rest
  have rest_keeps : Op.Keeps Q (rest ()) := by
    apply Leads.keep (tell_keeps _ _)
    intro _
    cases c.escalation.filter (·.expectsPrompt) with
    | some e => exact negotiate_keeps calls e c.options.timeout command
    | none => exact calls.exec command
  by_cases asked : (c.options.pty && sudoable) = true
  · rw [if_pos asked]
    exact Leads.keep calls.requestPty fun _ => rest_keeps
  · rw [if_neg asked]
    exact rest_keeps

end Connection

def Scene.Has (A : Cache → σ → Prop) (s : Scene σ) : Prop := A s.cache s.outside.lib

variable {P A : Cache → σ → Prop} {lib : Library σ}

theorem Act.ofOp_keeps {op : Op σ α} (keeps : ∀ cache, Op.Keeps (A cache) op) :
    Leads (Scene.Has A) (Act.ofOp op) (Scene.Has A) :=
  fun s holds => keeps s.cache s.outside holds

theorem Act.hold_keeps (change : Held → Held) : Leads (Scene.Has A) (Act.hold change) (Scene.Has A) :=
  fun _ holds => holds

theorem Act.tell_keeps (level : Level) (text : String) : Leads (Scene.Has A) (Act.tell level text) (Scene.Has A) :=
  fun _ holds => holds

theorem Act.pure_keeps (x : α) : Leads (Scene.Has A) (pure x : Act σ α) (Scene.Has A) := fun _ holds => holds

theorem Act.throw_keeps (e : Failure) : Leads (Scene.Has A) (throw e : Act σ α) (Scene.Has A) := fun _ holds => holds

theorem Act.held_keeps : Leads (Scene.Has A) (Act.held : Act σ Held) (Scene.Has A) := fun _ holds => holds

-- What is told, what is registered and which session is held are no concern of these facts.
structure Scene.Detached (P : Scene σ → Prop) : Prop where
  told : ∀ s events, P s → P { s with outside := s.outside.tell events }
  cached : ∀ s cache, P s → P { s with cache := cache }
  session : ∀ s session state, P s → P { s with held := { s.held with session := session, state := state } }

theorem Scene.has_detached (Q : σ → Prop) : Scene.Detached (Scene.Has fun _ => Q) :=
  ⟨fun _ _ holds => holds, fun _ _ holds => holds, fun _ _ _ holds => holds⟩

theorem Act.obtain_leads {P : Scene σ → Prop} (detached : Scene.Detached P) (registry : Cache → Registry Seat α)
    (update : Cache → Registry Seat α → Cache) (seat : Seat) {create : Act σ α} (creates : Leads P create P) :
    Leads P (Act.obtain registry update seat create) P := by
  intro s holds
  have entered := detached.cached s (update s.cache ((registry s.cache).enter seat).2) holds
  have made := creates _ entered
  simp only [Act.obtain, ExceptT.mk]
  cases ((registry s.cache).enter seat).2.value? ((registry s.cache).enter seat).1 with
  | some value => exact entered
  | none =>
      cases ran : create { s with cache := update s.cache ((registry s.cache).enter seat).2 } with
      | mk outcome t =>
          rw [ran] at made
          cases outcome with
          | ok value => exact detached.cached t _ made
          | error e => exact detached.cached t _ made

namespace Connection

open Act

theorem approach_leads {P : Scene σ → Prop} (detached : Scene.Detached P) (c : Connection) :
    Leads P (c.approach lib) P := by
  have tells : ∀ level text, Leads P (Act.tell level text) P := fun _ _ s holds => detached.told s _ holds
  have evicts : Leads P (c.evictSessionIf lib.isClosed) P := by
    refine Leads.keep (fun _ holds => holds) fun s => ?_
    cases s.cache.sessions.removeIf c.seat (lib.isClosed s.outside.lib) with
    | mk found sessions =>
        cases found with
        | none => exact fun _ holds => holds
        | some session =>
            exact Leads.keep (tells _ _) fun _ => Leads.keep (fun t holds => detached.cached t _ holds) fun _ _ holds => holds
  refine Leads.keep (Leads.keep evicts fun evicted => ?_) fun _ s holds => detached.session s s.held.session _ holds
  cases evicted with
  | true => exact tells _ _
  | false => exact fun _ holds => holds

theorem connect_leads {P : Scene σ → Prop} (detached : Scene.Detached P) (c : Connection)
    (opens : Leads P (Act.ofOp (c.connectUncached lib)) P) : Leads P (c.connect lib) P := by
  apply Leads.keep (approach_leads detached c)
  intro _
  apply Leads.keep (Leads.attempt (obtain_leads detached _ _ c.seat opens))
  intro outcome
  cases outcome with
  | ok session => exact Leads.keep (fun s holds => detached.session s _ _ holds) fun _ _ holds => holds
  | error e => exact Leads.keep (fun s holds => detached.session s s.held.session _ holds) fun _ _ holds => holds

theorem ensureConnected_leads {P : Scene σ → Prop} (detached : Scene.Detached P) (c : Connection)
    (opens : Leads P (Act.ofOp (c.connectUncached lib)) P) : Leads P (c.ensureConnected lib) P := by
  refine Leads.keep (fun _ holds => holds) fun s => ?_
  cases s.held.session with
  | none => exact connect_leads detached c opens
  | some session =>
      cases isClosed : lib.isClosed s.outside.lib session with
      | true => simpa only [isClosed, if_true] using connect_leads detached c opens
      | false => simpa only [isClosed, Bool.false_eq_true, if_false] using Leads.pure session fun _ holds => holds

theorem connect_keeps (calls : lib.Keeps Q) (c : Connection) :
    Leads (Scene.Has fun _ => Q) (c.connect lib) (Scene.Has fun _ => Q) :=
  connect_leads (Scene.has_detached Q) c (ofOp_keeps fun _ => connectUncached_keeps calls.dial calls.establish c)

theorem ensureConnected_keeps (calls : lib.Keeps Q) (c : Connection) :
    Leads (Scene.Has fun _ => Q) (c.ensureConnected lib) (Scene.Has fun _ => Q) :=
  ensureConnected_leads (Scene.has_detached Q) c (ofOp_keeps fun _ => connectUncached_keeps calls.dial calls.establish c)

theorem scene_ofIo (op : IoOp σ α) (failure : IoError → Failure) (s : Scene σ) :
    (ofIo op failure s).2 = { s with outside := (op s.outside).2 } := by
  simp only [ofIo, Act.run_ofOp, ExceptT.mk]
  cases op s.outside with
  | mk outcome o =>
      cases outcome with
      | ok x => rfl
      | error e => rfl

theorem ofIo_keeps {op : IoOp σ α} (keeps : ∀ cache, Op.Keeps (A cache) op) (failure : IoError → Failure) :
    Leads (Scene.Has A) (ofIo op failure) (Scene.Has A) := by
  intro s holds
  rw [scene_ofIo]
  exact keeps s.cache s.outside holds

theorem openingSftp_leads {P Q : Scene σ → Prop} {a : Act σ α} (leads : Leads P a Q) : Leads P (openingSftp a) Q := by
  apply Leads.keep (Leads.attempt leads)
  intro outcome
  cases outcome with
  | ok x => exact fun _ holds => holds
  | error e => exact fun _ holds => holds

theorem keepChannel_keeps (calls : ∀ cache, lib.Keeps (A cache)) (channel : ChannelId) :
    Leads (Scene.Has A) (keepChannel lib channel) (Scene.Has A) := by
  apply Leads.keep held_keeps
  intro before
  apply Leads.keep (hold_keeps _)
  intro _
  cases before.channel with
  | none => exact pure_keeps _
  | some old =>
      apply Leads.keep (Leads.attempt (ofOp_keeps fun cache => (calls cache).closeChannel old))
      intro outcome
      cases outcome with
      | ok done => exact pure_keeps _
      | error e => exact tell_keeps _ _

theorem openChannel_keeps (calls : ∀ cache, lib.Keeps (A cache)) (session : SessionId) :
    Leads (Scene.Has A) (openChannel lib session) (Scene.Has A) := by
  apply Leads.keep (Leads.attempt (ofOp_keeps fun cache => (calls cache).newChannel session))
  intro outcome
  cases outcome with
  | ok channel => exact pure_keeps _
  | error e => exact throw_keeps _

-- The registries are only looked into while the connection is ensured; the rest is calls of the library.
theorem exec_leads (calls : ∀ cache, lib.Keeps (A cache)) (weaker : ∀ cache l, P cache l → A cache l) (c : Connection)
    (ensured : Leads (Scene.Has P) (c.ensureConnected lib) (Scene.Has A)) (command : String) (input : Option Bytes)
    (sudoable : Bool) : Leads (Scene.Has P) (c.exec lib command input sudoable) (Scene.Has A) := by
  unfold exec
  by_cases given : input.getD [] ≠ []
  · rw [if_pos given]
    exact fun s holds => weaker s.cache s.outside.lib holds
  · rw [if_neg given]
    apply Leads.keep ensured
    intro session
    apply Leads.keep (openChannel_keeps calls session)
    intro channel
    apply Leads.keep (Leads.attempt (ofOp_keeps fun cache => runOn_keeps ((calls cache).on channel) c command sudoable))
    intro outcome
    apply Leads.keep (keepChannel_keeps calls channel)
    intro _
    cases outcome with
    | error e => exact throw_keeps e
    | ok result => exact Leads.keep (tell_keeps _ _) fun _ => pure_keeps result

theorem putFile_leads (calls : ∀ cache, lib.Keeps (A cache)) (weaker : ∀ cache l, P cache l → A cache l)
    (c : Connection) (ensured : Leads (Scene.Has P) (c.ensureConnected lib) (Scene.Has A)) (source target : String)
    (protocol : TransferProtocol) : Leads (Scene.Has P) (c.putFile lib source target protocol) (Scene.Has A) := by
  have enough : ∀ s, Scene.Has P s → Scene.Has A s := fun s holds => weaker s.cache s.outside.lib holds
  refine Leads.bind (tell_keeps _ _) (fun _ => Leads.bind (fun _ holds => holds) (fun s => ?_) enough) enough
  extract_lets rest
  have rest_leads : Leads (Scene.Has P) (rest ()) (Scene.Has A) := by
    apply Leads.keep ensured
    intro session
    cases protocol with
    | sftp =>
        apply Leads.keep (openingSftp_leads (ofOp_keeps fun cache => (calls cache).openSftp session))
        intro handle
        exact Leads.keep (hold_keeps _) fun _ => ofIo_keeps (fun cache => (calls cache).sftpPut handle source target) _
    | scp =>
        apply Leads.keep (ofOp_keeps fun cache => (calls cache).openScp session)
        intro handle
        exact ofIo_keeps (fun cache => (calls cache).scpPut handle source target) _
  by_cases present : s.outside.files.exists? source = true
  · rw [if_pos present]
    exact rest_leads
  · rw [if_neg present]
    exact enough

theorem fetchFile_leads (calls : ∀ cache, lib.Keeps (A cache)) (weaker : ∀ cache l, P cache l → A cache l)
    (c : Connection) (ensured : Leads (Scene.Has P) (c.ensureConnected lib) (Scene.Has A))
    (opened : Leads (Scene.Has P) (c.connectSftp lib) (Scene.Has A)) (source target : String)
    (protocol : TransferProtocol) : Leads (Scene.Has P) (c.fetchFile lib source target protocol) (Scene.Has A) := by
  have enough : ∀ s, Scene.Has P s → Scene.Has A s := fun s holds => weaker s.cache s.outside.lib holds
  refine Leads.bind (tell_keeps _ _) (fun _ => ?_) enough
  cases protocol with
  | sftp =>
      apply Leads.keep (openingSftp_leads opened)
      intro handle
      apply Leads.keep (hold_keeps _)
      intro _
      exact ofIo_keeps (fun cache => (calls cache).sftpGet handle source target) _
  | scp =>
      apply Leads.keep ensured
      intro session
      apply Leads.keep (ofOp_keeps fun cache => (calls cache).openScp session)
      intro handle
      exact ofIo_keeps (fun cache => (calls cache).scpGet handle source target) _

theorem release_keeps (take : Held → Option Nat × Held) {close : Nat → Op σ Unit}
    (closed : ∀ cache id, Op.Keeps (A cache) (close id)) : Leads (Scene.Has A) (release take close) (Scene.Has A) := by
  apply Leads.keep held_keeps
  intro h
  apply Leads.keep (hold_keeps _)
  intro _
  cases (take h).1 with
  | some id => exact ofOp_keeps fun cache => closed cache id
  | none => exact pure_keeps _

theorem close_leads (calls : ∀ cache, lib.KeepsClosing (A cache)) (c : Connection)
    (evicted : Leads (Scene.Has P) c.evict (Scene.Has A)) : Leads (Scene.Has P) (c.close lib) (Scene.Has A) := by
  apply Leads.keep evicted
  intro _
  apply Leads.keep (release_keeps _ fun cache => (calls cache).sftp)
  intro _
  apply Leads.keep (release_keeps _ fun cache => (calls cache).channel)
  intro _
  apply Leads.keep (release_keeps _ fun cache => (calls cache).session)
  intro _
  exact Leads.keep (hold_keeps _) fun _ => tell_keeps _ _

end Connection
end RemoteExec

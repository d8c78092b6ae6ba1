import RemoteExec.Proofs.Session.Handles

namespace RemoteExec

variable {σ α : Type}

def Library.handleless (lib : Library σ) : Library σ :=
  { lib with
    openSftp := fun _ => throw (.connection "not asked")
    closeSftp := fun _ => throw (.connection "not asked") }

theorem Library.Keeps.handleless {lib : Library σ} {Q : σ → Prop} (calls : lib.Keeps Q) : lib.handleless.Keeps Q :=
  { calls with
    openSftp := fun _ => Op.throw_keeps _
    closeSftp := fun _ => Op.throw_keeps _ }

theorem Library.Keeps.unasked {lib : Library σ} {Q : σ → Prop} (calls : lib.Keeps Q) : lib.unasked.Keeps Q :=
  { calls with
    dial := fun _ _ holds => holds
    establish := fun _ => Op.throw_keeps _ }

structure Aside (lib : Library σ) (s t : Scene σ) : Prop where
  session : t.held.session = s.held.session
  state : t.held.state = s.held.state
  sessions : t.cache.sessions = s.cache.sessions
  kept : ∀ Q : σ → Prop, lib.unasked.Keeps Q → Q s.outside.lib → Q t.outside.lib

namespace Aside

variable {lib : Library σ} {s t u : Scene σ}

theorem refl (lib : Library σ) (s : Scene σ) : Aside lib s s := ⟨rfl, rfl, rfl, fun _ _ holds => holds⟩

theorem trans (first : Aside lib s t) (second : Aside lib t u) : Aside lib s u :=
  ⟨second.session.trans first.session, second.state.trans first.state, second.sessions.trans first.sessions,
    fun Q calls holds => second.kept Q calls (first.kept Q calls holds)⟩

theorem openSftp (lib : Library σ) (session : SessionId) (s : Scene σ) :
    Aside lib s { s with outside := (lib.openSftp session s.outside).2 } :=
  ⟨rfl, rfl, rfl, fun _ calls holds => calls.openSftp session s.outside holds⟩

end Aside

structure Apart (lib : Library σ) (s t : Scene σ) : Prop where
  held : t.held = { s.held with channel := t.held.channel }
  cache : t.cache = s.cache
  kept : ∀ Q : σ → Prop, lib.unasked.handleless.Keeps Q → Q s.outside.lib → Q t.outside.lib

namespace Apart

variable {lib : Library σ} {s t u : Scene σ}

theorem refl (lib : Library σ) (s : Scene σ) : Apart lib s s := ⟨rfl, rfl, fun _ _ holds => holds⟩

theorem told (lib : Library σ) (s : Scene σ) (events : List Event) :
    Apart lib s { s with outside := s.outside.tell events } :=
  ⟨rfl, rfl, fun _ _ holds => holds⟩

theorem aside (apart : Apart lib s t) : Aside lib s t :=
  ⟨by rw [apart.held], by rw [apart.held], by rw [apart.cache], fun Q calls => apart.kept Q calls.handleless⟩

theorem trans (first : Apart lib s t) (second : Apart lib t u) : Apart lib s u := by
  refine ⟨?_, second.cache.trans first.cache, fun Q calls holds => second.kept Q calls (first.kept Q calls holds)⟩
  rw [second.held, first.held]

theorem ofOp {op : Op σ α} (keeps : ∀ Q, lib.unasked.handleless.Keeps Q → Op.Keeps Q op) :
    Leads (Apart lib s) (Act.ofOp op) (Apart lib s) :=
  fun t apart => apart.trans ⟨rfl, rfl, fun Q calls holds => keeps Q calls t.outside holds⟩

theorem ofIo {op : IoOp σ α} (keeps : ∀ Q, lib.unasked.handleless.Keeps Q → Op.Keeps Q op)
    (failure : IoError → Failure) : Leads (Apart lib s) (Connection.ofIo op failure) (Apart lib s) := by
  intro t apart
  rw [Connection.scene_ofIo]
  exact apart.trans ⟨rfl, rfl, fun Q calls holds => keeps Q calls t.outside holds⟩

theorem tell (level : Level) (text : String) : Leads (Apart lib s) (Act.tell level text) (Apart lib s) :=
  fun t apart => apart.trans (told lib t _)

theorem pure (x : α) : Leads (Apart lib s) (Pure.pure x : Act σ α) (Apart lib s) := fun _ apart => apart

theorem throw (e : Failure) : Leads (Apart lib s) (MonadExcept.throw e : Act σ α) (Apart lib s) := fun _ apart => apart

end Apart

namespace Connection

variable {lib : Library σ} {c : Connection} {s : Scene σ}

theorem keepChannel_apart (channel : ChannelId) : Leads (Apart lib s) (keepChannel lib channel) (Apart lib s) := by
  refine Leads.keep (fun _ apart => apart) fun before => ?_
  refine Leads.keep (fun t apart => apart.trans ⟨rfl, rfl, fun _ _ holds => holds⟩) fun _ => ?_
  cases before.channel with
  | none => exact Apart.pure _
  | some old =>
      refine Leads.keep (Leads.attempt (Apart.ofOp fun Q calls => calls.closeChannel old)) fun outcome => ?_
      cases outcome with
      | ok done => exact Apart.pure _
      | error e => exact Apart.tell _ _

theorem openChannel_apart (session : SessionId) : Leads (Apart lib s) (openChannel lib session) (Apart lib s) := by
  refine Leads.keep (Leads.attempt (Apart.ofOp fun Q calls => calls.newChannel session)) fun outcome => ?_
  cases outcome with
  | ok channel => exact Apart.pure _
  | error e => exact Apart.throw _

theorem runOn_apart (channel : ChannelId) (command : String) (sudoable : Bool) :
    Leads (Apart lib s) (Act.ofOp (c.runOn lib channel command sudoable)) (Apart lib s) := by
  refine Apart.ofOp fun Q calls => ?_
  -- A command makes none of the calls that sessions and file handles need.
  have on : lib.KeepsOn Q channel :=
    ⟨calls.requestPty channel, calls.start channel, calls.send channel, calls.receive channel, calls.exec channel,
      calls.finish channel⟩
  exact runOn_keeps on c command sudoable

def commanding (lib : Library σ) (c : Connection) (command : String) (sudoable : Bool) (session : SessionId) :
    Act σ CommandResult := do
  let channel ← openChannel lib session
  let outcome ← Act.attempt (Act.ofOp (c.runOn lib channel command sudoable))
  keepChannel lib channel
  match outcome with
  | .error e => throw e
  | .ok result =>
    Act.tell .debug ("Command completed: rc=" ++ toString result.returnCode ++ ", stdout_len=" ++
      toString result.stdout.length ++ ", stderr_len=" ++ toString result.stderr.length)
    return result

theorem exec_given (lib : Library σ) (c : Connection) (command : String) {input : Option Bytes} (sudoable : Bool)
    (given : input.getD [] ≠ []) : ∃ e, c.exec lib command input sudoable s = (.error e, s) := by
  unfold exec
  rw [if_pos given]
  exact ⟨_, rfl⟩

theorem exec_commanding (lib : Library σ) (c : Connection) (command : String) {input : Option Bytes} (sudoable : Bool)
    (ungiven : ¬ input.getD [] ≠ []) :
    c.exec lib command input sudoable = c.ensureConnected lib >>= commanding lib c command sudoable := by
  unfold exec
  rw [if_neg ungiven]
  rfl

theorem commanding_apart (command : String) (sudoable : Bool) (session : SessionId) :
    Leads (Apart lib s) (commanding lib c command sudoable session) (Apart lib s) := by
  refine Leads.keep (openChannel_apart session) fun channel => ?_
  refine Leads.keep (Leads.attempt (runOn_apart channel command sudoable)) fun outcome => ?_
  refine Leads.keep (keepChannel_apart channel) fun _ => ?_
  cases outcome with
  | error e => exact Apart.throw e
  | ok result => exact Leads.keep (Apart.tell _ _) fun _ => Apart.pure result

theorem openScp_apart (session : SessionId) {op : ScpId → IoOp σ Unit}
    (keeps : ∀ handle Q, lib.unasked.handleless.Keeps Q → Op.Keeps Q (op handle)) (failure : IoError → Failure) :
    Leads (Apart lib s) (do let handle ← Act.ofOp (lib.openScp session); ofIo (op handle) failure) (Apart lib s) := by
  refine Leads.keep (Apart.ofOp fun _ calls => calls.openScp session) fun handle => ?_
  exact Apart.ofIo (keeps handle) failure

def holding (handle : SftpId) (s : Scene σ) : Scene σ := { s with held := { s.held with sftp := some handle } }

theorem holding_aside (lib : Library σ) (handle : SftpId) (s : Scene σ) : Aside lib s (holding handle s) :=
  ⟨rfl, rfl, rfl, fun _ _ holds => holds⟩

theorem holdSftp_apart (handle : SftpId) {op : IoOp σ Unit}
    (keeps : ∀ Q, lib.unasked.handleless.Keeps Q → Op.Keeps Q op) (failure : IoError → Failure) (s : Scene σ) :
    Apart lib (holding handle s) ((do holdSftp handle; ofIo op failure) s).2 := by
  rw [run_bind, holdSftp, Act.run_hold]
  exact Apart.ofIo keeps failure _ (.refl lib _)

def fetchingScp (lib : Library σ) (source target : String) (session : SessionId) : Act σ Unit := do
  let handle ← Act.ofOp (lib.openScp session)
  ofIo (lib.scpGet handle source target) fun e =>
    .transferFailed ("Error transferring file from " ++ source ++ ": " ++ e.message)

theorem fetchingScp_apart (lib : Library σ) (source target : String) (session : SessionId) (s : Scene σ) :
    Apart lib s (fetchingScp lib source target session s).2 :=
  openScp_apart session (fun handle _ calls => calls.scpGet handle source target) _ s (.refl lib s)

inductive Uses (lib : Library σ) (c : Connection) (s t : Scene σ) : Prop where
  | idle (aside : Aside lib s t) (same : t.held = s.held)
  | ensured (before : Scene σ) (sound : before.cache.Sound) (held : before.held = s.held)
      (sessions : before.cache.sessions = s.cache.sessions) (same : before.outside.lib = s.outside.lib)
      (aside : Aside lib (c.ensureConnected lib before).2 t)

-- What an operation comes down to. A fetch that finds a file handle registered asks for no session at all.
inductive Course (lib : Library σ) (c : Connection) (s : Scene σ) (operation : Operation) : Prop where
  | connects (same : operation = .connect)
  | closes (same : operation = .close)
  | resets (same : operation = .reset)
  | through (source target : String) (handle : SftpId) (same : operation = .fetchFile source target .sftp)
      (registered : s.cache.sftp.get? c.seat = some handle)
  | uses (uses : Uses lib c s (operation.act lib c s).2)

theorem scene_unread {β : Type} (a : Act σ β) (s : Scene σ) : ((do let _ ← a) s).2 = (a s).2 := by
  rw [run_bind]
  cases a s with
  | mk outcome t =>
      cases outcome with
      | ok x => rfl
      | error e => rfl

structure Follows (lib : Library σ) (report : Failure → Failure) (first : Except Failure SessionId × Scene σ)
    (ran : Except Failure α × Scene σ) : Prop where
  aside : Aside lib first.2 ran.2
  reported : ∀ e, first.1 = .error e → ran.1 = .error (report e) ∧ ran.2.outside = first.2.outside

theorem bind_follows {first : Act σ SessionId} {f : SessionId → Act σ α}
    (rest : ∀ session mid, Aside lib mid (f session mid).2) : Follows lib id (first s) ((first >>= f) s) := by
  rw [run_bind]
  cases first s with
  | mk outcome mid =>
      cases outcome with
      | ok session =>
          refine ⟨rest session mid, fun e failed => ?_⟩
          cases failed
      | error e =>
          refine ⟨.refl lib mid, fun cause failed => ?_⟩
          cases failed
          exact ⟨rfl, rfl⟩

theorem Follows.unread {report : Failure → Failure} {first : Except Failure SessionId × Scene σ} {a : Act σ α}
    (follows : Follows lib report first (a s)) : Follows lib report first ((do let _ ← a) s) := by
  refine ⟨?_, fun e failed => ?_⟩
  · rw [scene_unread]
    exact follows.aside
  · rw [scene_unread]
    exact ⟨run_bind_error (follows.reported e failed).1, (follows.reported e failed).2⟩

-- Neither what is told before nor an entry for a file handle makes a difference.
theorem Follows.uses {report : Failure → Failure} {before : Scene σ} {ran : Except Failure α × Scene σ}
    (follows : Follows lib report (c.ensureConnected lib before) ran) (sound : before.cache.Sound)
    (held : before.held = s.held) (sessions : before.cache.sessions = s.cache.sessions)
    (same : before.outside.lib = s.outside.lib) : Uses lib c s ran.2 :=
  .ensured before sound held sessions same follows.aside

theorem connectSftp_follows (sound : s.cache.Sound) (vacant : s.cache.sftp.get? c.seat = none) :
    Follows lib id (c.ensureConnected lib (entered c s)) (c.connectSftp lib s) := by
  rw [connectSftp_vacant sound vacant]
  constructor
  · cases c.ensureConnected lib (entered c s) with
    | mk outcome mid =>
        cases outcome with
        | error e => exact ⟨rfl, rfl, rfl, fun _ _ holds => holds⟩
        | ok session =>
            have asked := Aside.openSftp lib session mid
            simp only
            cases opened : lib.openSftp session mid.outside with
            | mk result o =>
                rw [opened] at asked
                cases result with
                | error e => exact asked.trans ⟨rfl, rfl, rfl, fun _ _ holds => holds⟩
                | ok handle => exact asked.trans ⟨rfl, rfl, rfl, fun _ _ holds => holds⟩
  · cases c.ensureConnected lib (entered c s) with
    | mk outcome mid =>
        intro e failed
        cases failed
        exact ⟨rfl, rfl⟩

theorem connectSftp_uses (sound : s.cache.Sound) : Uses lib c s (c.connectSftp lib s).2 := by
  cases known : s.cache.sftp.get? c.seat with
  | some handle =>
      rw [connectSftp_registered known]
      exact .idle (.refl lib s) rfl
  | none => exact (connectSftp_follows sound known).uses (entered_sound sound) rfl rfl rfl

theorem exec_follows (command : String) {input : Option Bytes} (sudoable : Bool) (ungiven : ¬ input.getD [] ≠ []) :
    Follows lib id (c.ensureConnected lib s) (c.exec lib command input sudoable s) := by
  rw [exec_commanding lib c command sudoable ungiven]
  exact bind_follows fun session mid => (commanding_apart command sudoable session mid (.refl lib mid)).aside

theorem exec_uses (sound : s.cache.Sound) (command : String) (input : Option Bytes) (sudoable : Bool) :
    Uses lib c s (c.exec lib command input sudoable s).2 := by
  by_cases given : input.getD [] ≠ []
  · obtain ⟨e, refused⟩ := exec_given (s := s) lib c command sudoable given
    rw [refused]
    exact .idle (.refl lib s) rfl
  · exact (exec_follows command sudoable given).uses sound rfl rfl rfl

def offered (source target : String) (s : Scene σ) : Scene σ :=
  { s with outside := s.outside.tell [⟨.info, "PUT " ++ source ++ " TO " ++ target⟩] }

def noHandle (e : Failure) : Failure := .transferFailed ("failed to open a SFTP connection (" ++ e.message ++ ")")

def sendThrough (lib : Library σ) (handle : SftpId) (source target : String) : Act σ Unit := do
  holdSftp handle
  ofIo (lib.sftpPut handle source target) fun e =>
    .transferFailed ("failed to transfer file to " ++ target ++ ": " ++ e.message)

theorem sendThrough_apart (lib : Library σ) (handle : SftpId) (source target : String) (s : Scene σ) :
    Apart lib (holding handle s) (sendThrough lib handle source target s).2 :=
  holdSftp_apart handle (fun _ calls => calls.sftpPut handle source target) _ s

def sending (lib : Library σ) (source target : String) (protocol : TransferProtocol) (session : SessionId) : Act σ Unit :=
  match protocol with
  | .sftp => do
    let handle ← openingSftp (Act.ofOp (lib.openSftp session))
    sendThrough lib handle source target
  | .scp => do
    let handle ← Act.ofOp (lib.openScp session)
    ofIo (lib.scpPut handle source target) fun e =>
      .transferFailed ("Error transferring file to " ++ target ++ ": " ++ e.message)

theorem putFile_present {source : String} (target : String) (protocol : TransferProtocol)
    (present : s.outside.files.exists? source = true) :
    c.putFile lib source target protocol s =
      (c.ensureConnected lib >>= sending lib source target protocol) (offered source target s) := by
  simp only [putFile, run_bind (Act.tell _ _), Act.run_tell, run_bind get, run_get]
  rw [if_pos]
  · rfl
  · exact present

theorem putFile_absent {source : String} (target : String) (protocol : TransferProtocol)
    (absent : ¬ s.outside.files.exists? source = true) :
    c.putFile lib source target protocol s = (.error (.fileNotFound source), offered source target s) := by
  simp only [putFile, run_bind (Act.tell _ _), Act.run_tell, run_bind get, run_get]
  rw [if_neg]
  · rfl
  · exact absent

theorem sending_scp_apart (lib : Library σ) (source target : String) (session : SessionId) (s : Scene σ) :
    Apart lib s (sending lib source target .scp session s).2 :=
  openScp_apart session (fun handle _ calls => calls.scpPut handle source target) _ s (.refl lib s)

theorem sending_sftp (source target : String) (session : SessionId) (s : Scene σ) :
    sending lib source target .sftp session s =
      match lib.openSftp session s.outside with
      | (.ok handle, o) => sendThrough lib handle source target { s with outside := o }
      | (.error e, o) => (.error (noHandle e), { s with outside := o }) := by
  simp only [sending, openingSftp, run_bind, Act.run_attempt, Act.run_ofOp]
  cases lib.openSftp session s.outside with
  | mk outcome o =>
      cases outcome with
      | ok handle => rfl
      | error e => rfl

theorem sending_aside (source target : String) (protocol : TransferProtocol) (session : SessionId) (s : Scene σ) :
    Aside lib s (sending lib source target protocol session s).2 := by
  cases protocol with
  | scp => exact (sending_scp_apart lib source target session s).aside
  | sftp =>
      rw [sending_sftp]
      have asked := Aside.openSftp lib session s
      cases opened : lib.openSftp session s.outside with
      | mk outcome o =>
          rw [opened] at asked
          cases outcome with
          | error e => exact asked
          | ok handle =>
              have sent := sendThrough_apart lib handle source target { s with outside := o }
              exact (asked.trans (holding_aside lib handle _)).trans sent.aside

theorem putFile_follows {source : String} (target : String) (protocol : TransferProtocol)
    (present : s.outside.files.exists? source = true) :
    Follows lib id (c.ensureConnected lib (offered source target s)) (c.putFile lib source target protocol s) := by
  rw [putFile_present target protocol present]
  exact bind_follows (sending_aside source target protocol)

theorem putFile_uses (sound : s.cache.Sound) (source target : String) (protocol : TransferProtocol) :
    Uses lib c s (c.putFile lib source target protocol s).2 := by
  by_cases present : s.outside.files.exists? source = true
  · exact (putFile_follows target protocol present).uses sound rfl rfl rfl
  · rw [putFile_absent target protocol present]
    exact .idle ⟨rfl, rfl, rfl, fun _ _ holds => holds⟩ rfl

theorem fetchThrough_apart (lib : Library σ) (handle : SftpId) (source target : String) (s : Scene σ) :
    Apart lib (holding handle s) (fetchThrough lib handle source target s).2 :=
  holdSftp_apart handle (fun _ calls => calls.sftpGet handle source target) _ s

theorem fetch_through {source target : String} {handle : SftpId} (registered : s.cache.sftp.get? c.seat = some handle) :
    Aside lib s (c.fetchFile lib source target .sftp s).2 ∧
      (c.fetchFile lib source target .sftp s).2.held = { s.held with sftp := some handle } := by
  have found : c.connectSftp lib (announced source target s) = (.ok handle, announced source target s) :=
    connectSftp_registered registered
  rw [fetchFile_sftp, found]
  have told : Aside lib s (announced source target s) := (Apart.told lib s _).aside
  have fetched := fetchThrough_apart lib handle source target (announced source target s)
  refine ⟨(told.trans (holding_aside lib handle _)).trans fetched.aside, ?_⟩
  simp only [fetchThrough, run_bind, holdSftp, Act.run_hold, scene_ofIo]
  rfl

theorem fetchFile_scp (source target : String) :
    c.fetchFile lib source target .scp s = (c.ensureConnected lib >>= fetchingScp lib source target)
      (announced source target s) := by
  simp only [fetchFile, run_bind (Act.tell _ _), Act.run_tell]
  rfl

theorem fetchScp_follows (source target : String) :
    Follows lib id (c.ensureConnected lib (announced source target s)) (c.fetchFile lib source target .scp s) := by
  rw [fetchFile_scp]
  exact bind_follows fun session mid => (fetchingScp_apart lib source target session mid).aside

theorem fetchScp_uses (sound : s.cache.Sound) (source target : String) :
    Uses lib c s (c.fetchFile lib source target .scp s).2 :=
  (fetchScp_follows source target).uses sound rfl rfl rfl

theorem fetchSftp_follows (sound : s.cache.Sound) (vacant : s.cache.sftp.get? c.seat = none) (source target : String) :
    Follows lib noHandle (c.ensureConnected lib (entered c (announced source target s)))
      (c.fetchFile lib source target .sftp s) := by
  have follows : Follows lib id _ (c.connectSftp lib (announced source target s)) := connectSftp_follows sound vacant
  obtain ⟨aside, reported⟩ := follows
  rw [fetchFile_sftp]
  cases opened : c.connectSftp lib (announced source target s) with
  | mk outcome t =>
      rw [opened] at aside reported
      cases outcome with
      | ok handle =>
          have fetched := (fetchThrough_apart lib handle source target t).aside
          refine ⟨aside.trans ((holding_aside lib handle t).trans fetched), fun e failed => ?_⟩
          cases (reported e failed).1
      | error cause =>
          refine ⟨aside, fun e failed => ?_⟩
          obtain ⟨same, outside⟩ := reported e failed
          cases same
          exact ⟨rfl, outside⟩

theorem fetchSftp_uses (sound : s.cache.Sound) (vacant : s.cache.sftp.get? c.seat = none) (source target : String) :
    Uses lib c s (c.fetchFile lib source target .sftp s).2 :=
  (fetchSftp_follows sound vacant source target).uses (entered_sound (s := announced source target s) sound) rfl rfl rfl

theorem operation_course (lib : Library σ) (c : Connection) (sound : s.cache.Sound) (operation : Operation) :
    Course lib c s operation := by
  cases operation with
  | connect => exact .connects rfl
  | close => exact .closes rfl
  | reset => exact .resets rfl
  | ensureConnected =>
      refine .uses (.ensured s sound rfl rfl rfl ?_)
      rw [Operation.act, scene_unread]
      exact .refl lib _
  | connectSftp =>
      refine .uses ?_
      rw [Operation.act, scene_unread]
      exact connectSftp_uses sound
  | exec command input sudoable =>
      refine .uses ?_
      rw [Operation.act, scene_unread]
      exact exec_uses sound command input sudoable
  | putFile source target protocol => exact .uses (putFile_uses sound source target protocol)
  | fetchFile source target protocol =>
      cases protocol with
      | scp => exact .uses (fetchScp_uses sound source target)
      | sftp =>
          cases known : s.cache.sftp.get? c.seat with
          | some handle => exact .through source target handle rfl known
          | none => exact .uses (fetchSftp_uses sound known source target)

end Connection
end RemoteExec

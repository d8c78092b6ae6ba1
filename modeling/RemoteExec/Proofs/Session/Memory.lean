import RemoteExec.Proofs.Session.Runs
import RemoteExec.Session.Memory

namespace RemoteExec.Memory

@[simp] theorem run_lib (o : Outside State) : lib o = (.ok o.lib, o) := rfl

@[simp] theorem run_change (f : State → State) (o : Outside State) :
    change f o = (.ok (), { o with lib := f o.lib }) := rfl

theorem library_yields_open (name : String) (version : Version) : (library name version).YieldsOpen := by
  intro r o session after ran
  change establish r o = _ at ran
  simp only [establish, run_bind, run_lib, run_change, run_pure] at ran
  cases allowed : (failWith o.lib.settings.connectFailure : Op State Unit) o with
  | mk outcome before =>
      cases outcome with
      | error e =>
          rw [allowed] at ran
          cases ran
      | ok done =>
          cases verified : verifyKey r before with
          | mk outcome shown =>
              simp only [allowed, verified] at ran
              cases outcome with
              | error e => cases ran
              | ok trusted =>
                  cases ran
                  simp [library, isClosed]

theorem library_spares_session (name : String) (version : Version) : (library name version).SparesSession := by
  intro session o handle after ran isOpen
  change openSftp o = _ at ran
  simp only [openSftp, run_bind, run_lib, run_change, run_pure] at ran
  cases failure : o.lib.settings.sftpFailure with
  | some e =>
      rw [failure] at ran
      cases ran
  | none =>
      rw [failure] at ran
      cases ran
      exact isOpen

def weight (chunks : List Chunk) : Nat := chunks.foldr (fun k n => k.size + 1 + n) 0

theorem pieces_setChunks {o : Outside State} {id : ChannelId} {c : Channel} (found : o.lib.channels[id]? = some c)
    (chunks : List Chunk) : ∃ after, setChunks id chunks o = (.ok (), after) ∧ pieces after.lib id = weight chunks := by
  refine ⟨_, rfl, ?_⟩
  simp [pieces, weight, found]

theorem give_lighter {o after : Outside State} {id : ChannelId} {c : Channel} {limit : Nat} {b chunk : Bytes}
    {rest : List Chunk} (found : o.lib.channels[id]? = some c) (ran : give id limit b rest o = (.ok (some chunk), after))
    (full : chunk ≠ []) : pieces after.lib id < b.length + 1 + weight rest := by
  obtain ⟨t, changed, left⟩ := pieces_setChunks found (if (b.drop limit).isEmpty then rest else .data (b.drop limit) :: rest)
  simp only [give, run_bind, changed, run_pure] at ran
  cases ran
  rw [left]
  by_cases whole : (b.drop limit).isEmpty = true
  · rw [if_pos whole]
    omega
  · rw [if_neg whole]
    have some_taken : 0 < (b.take limit).length := List.length_pos_iff.mpr full
    simp only [List.length_take] at some_taken
    simp only [weight, List.foldr_cons, Chunk.size, List.length_drop]
    omega

theorem library_counts_pieces (name : String) (version : Version) : (library name version).CountsPieces := by
  intro channel timeout limit o chunk after ran full
  change receive channel timeout limit o = _ at ran
  change pieces after.lib channel < pieces o.lib channel
  cases found : o.lib.channels[channel]? with
  | none =>
      simp only [receive, script, run_bind, run_lib, run_pure, found, Option.map_none, Option.getD_none, Script.silent] at ran
      cases ran
      exact absurd rfl full
  | some c =>
      have before : pieces o.lib channel = weight c.script.chunks := by simp [pieces, weight, found]
      simp only [receive, script, run_bind, run_lib, run_pure, found, Option.map_some, Option.getD_some] at ran
      rw [before]
      cases listed : c.script.chunks with
      | nil =>
          simp only [listed, run_pure] at ran
          cases hanging : c.script.hang with
          | true =>
              rw [hanging] at ran
              cases ran
          | false =>
              rw [hanging] at ran
              cases ran
              exact absurd rfl full
      | cons first rest =>
          cases first with
          | data b =>
              rw [listed] at ran
              exact give_lighter found ran full
          | failure e =>
              rw [listed] at ran
              cases ran
          | delayed wait b =>
              simp only [listed] at ran
              by_cases soon : wait ≤ milliseconds timeout
              · rw [if_pos soon] at ran
                exact give_lighter found ran full
              · rw [if_neg soon] at ran
                cases ran

section Closing

variable {id : SessionId} {α : Type}

abbrev Shut (id : SessionId) (l : State) : Prop := isClosed l id = true

theorem change_keeps {f : State → State} (kept : ∀ l, Shut id l → Shut id (f l)) : Op.Keeps (Shut id) (change f) :=
  fun o closed => kept o.lib closed

theorem failWith_keeps (e? : Option Failure) : Op.Keeps (Shut id) (failWith e?) := by
  cases e? with
  | none => exact fun _ closed => closed
  | some e => exact fun _ closed => closed

theorem lib_keeps : Op.Keeps (Shut id) Memory.lib := fun _ closed => closed

theorem onChannel_keeps (channel : ChannelId) (f : Channel → Channel) : Op.Keeps (Shut id) (onChannel channel f) :=
  fun _ closed => closed

theorem script_keeps (channel : ChannelId) : Op.Keeps (Shut id) (script channel) := fun _ closed => closed

theorem give_keeps (channel : ChannelId) (limit : Nat) (b : Bytes) (rest : List Chunk) :
    Op.Keeps (Shut id) (give channel limit b rest) :=
  fun _ closed => closed

theorem receive_keeps (channel : ChannelId) (timeout : Duration) (limit : Nat) :
    Op.Keeps (Shut id) (receive channel timeout limit) := by
  refine Leads.keep (script_keeps channel) fun played => ?_
  cases played.chunks with
  | nil => exact Op.pure_keeps _
  | cons first rest =>
      cases first with
      | data b => exact give_keeps channel limit b rest
      | failure e => exact Leads.keep (onChannel_keeps channel _) fun _ => Op.throw_keeps e
      | delayed wait b =>
          by_cases soon : wait ≤ milliseconds timeout
          · simpa only [if_pos soon] using give_keeps channel limit b rest
          · simpa only [if_neg soon] using Op.pure_keeps none

theorem finish_keeps (channel : ChannelId) (timeout : Duration) : Op.Keeps (Shut id) (finish channel timeout) := by
  refine Leads.keep (script_keeps channel) fun played => ?_
  cases played.hangOnFinish with
  | true => exact Op.pure_keeps _
  | false => exact Leads.keep (failWith_keeps _) fun _ => Op.pure_keeps _

theorem ofFiles_keeps (e : Except IoError α) : Op.Keeps (Shut id) (ofFiles e) := by
  cases e with
  | ok x => exact fun _ closed => closed
  | error e => exact fun _ closed => closed

theorem upload_keeps (source target : String) : Op.Keeps (Shut id) (upload source target) := by
  refine Leads.keep (fun _ closed => closed) fun o => Leads.keep (ofFiles_keeps _) fun content => ?_
  exact fun _ closed => closed

theorem download_keeps (source target missing : String) : Op.Keeps (Shut id) (download source target missing) := by
  refine Leads.keep (fun _ closed => closed) fun o => ?_
  cases remoteFile? o.lib source with
  | none => exact fun _ closed => closed
  | some content => exact Leads.keep (ofFiles_keeps _) fun files => fun _ closed => closed

theorem isClosed_set (sessions : List Bool) (session : SessionId) :
    ((sessions.set session true)[session]?).getD true = true := by
  by_cases known : session < sessions.length
  · simp [known]
  · simp [Nat.le_of_not_lt known]

theorem closeSession_keeps (session : SessionId) : Op.Keeps (Shut id) (closeSession session) := by
  refine Leads.keep lib_keeps fun s => Leads.keep (failWith_keeps _) fun _ => change_keeps fun l closed => ?_
  show ((l.sessions.set session true)[id]?).getD true = true
  by_cases same : session = id
  · subst same
    exact isClosed_set l.sessions session
  · rw [List.getElem?_set_ne same]
    exact closed

theorem verifyKey_keeps (r : Request) : Op.Keeps (Shut id) (verifyKey r) := by
  refine Leads.keep lib_keeps fun s => ?_
  cases s.settings.hostKey with
  | none => exact Op.pure_keeps 0
  | some key =>
      refine Leads.keep Op.get_keeps fun o => ?_
      cases r.policy.verify key o.operator with
      | mk outcome rest =>
          refine Leads.keep (fun _ closed => closed) fun _ => ?_
          cases outcome with
          | ok done => exact Op.pure_keeps 1
          | error e => exact Op.throw_keeps e

theorem isClosed_added {l : State} (closed : Shut id l) (apart : l.sessions.length ≠ id) :
    (((l.sessions ++ [false])[id]?).getD true) = true := by
  by_cases known : id < l.sessions.length
  · rw [List.getElem?_append_left known]
    exact closed
  · rw [List.getElem?_append_right (Nat.le_of_not_lt known)]
    have later : l.sessions.length < id := Nat.lt_of_le_of_ne (Nat.le_of_not_lt known) apart
    simp [Nat.sub_ne_zero_of_lt later]

theorem establish_keeps (r : Request) (o : Outside State) (closed : Shut id o.lib) (other : (establish r o).1 ≠ .ok id) :
    Shut id (establish r o).2.lib := by
  have allowed := failWith_keeps o.lib.settings.connectFailure o closed
  simp only [establish, run_bind, run_lib] at other ⊢
  cases first : (failWith o.lib.settings.connectFailure : Op State Unit) o with
  | mk outcome before =>
      rw [first] at allowed
      simp only [first] at other ⊢
      cases outcome with
      | error e => exact allowed
      | ok done =>
          have verified := verifyKey_keeps r before allowed
          cases second : verifyKey r before with
          | mk shown after =>
              rw [second] at verified
              simp only [second] at other ⊢
              cases shown with
              | error e => exact verified
              | ok trusted => exact isClosed_added verified fun same => other (congrArg Except.ok same)

theorem closeSession_closes {o after : Outside State} (ran : closeSession id o = (.ok (), after)) : Shut id after.lib := by
  simp only [closeSession, run_bind, run_lib, run_change] at ran
  cases allowed : (failWith o.lib.settings.sessionCloseFailure : Op State Unit) o with
  | mk outcome before =>
      rw [allowed] at ran
      cases outcome with
      | error e => cases ran
      | ok done =>
          cases ran
          exact isClosed_set before.lib.sessions id

theorem library_closes_for_good (name : String) (version : Version) : (library name version).ClosesForGood where
  stays := fun _ => {
    dial := fun _ _ closed => closed
    establish := fun _ _ closed => closed
    newChannel := fun _ => Leads.keep lib_keeps fun _ => Leads.keep (failWith_keeps _) fun _ _ closed => closed
    openSftp := fun _ => Leads.keep lib_keeps fun _ => Leads.keep (failWith_keeps _) fun _ _ closed => closed
    openScp := fun _ => Leads.keep lib_keeps fun _ => Leads.keep (failWith_keeps _) fun _ _ closed => closed
    closeSession := closeSession_keeps
    requestPty := fun channel => Leads.keep (script_keeps channel) fun _ => Leads.keep (failWith_keeps _) fun _ _ closed => closed
    start := fun channel _ => Leads.keep (script_keeps channel) fun _ => Leads.keep (failWith_keeps _) fun _ _ closed => closed
    send := fun channel _ => Leads.keep (script_keeps channel) fun _ => Leads.keep (failWith_keeps _) fun _ _ closed => closed
    receive := receive_keeps
    exec := fun channel _ => Leads.keep (script_keeps channel) fun _ => Leads.keep (onChannel_keeps channel _) fun _ =>
      Leads.keep (failWith_keeps _) fun _ _ closed => closed
    finish := finish_keeps
    closeChannel := fun _ => Leads.keep (fun _ closed => closed) fun _ => Leads.keep lib_keeps fun _ =>
      Leads.keep (failWith_keeps _) fun _ _ closed => closed
    sftpPut := fun _ => upload_keeps
    sftpGet := fun _ source target => download_keeps source target _
    closeSftp := fun _ => Leads.keep (fun _ closed => closed) fun _ => Leads.keep lib_keeps fun _ => failWith_keeps _
    scpPut := fun _ => upload_keeps
    scpGet := fun _ source target => download_keeps source target _ }
  dialed := fun _ _ _ closed => closed
  established := fun _ r o => establish_keeps r o
  closes := fun _ _ _ => closeSession_closes

end Closing

def web : Connection := Connection.make { Options.ofAddr "web01" with remoteUser := some "deploy" } 0 ⟨[]⟩

def mock : Library State := library "mock" ⟨1, 0, 0⟩

def idle : World (Recorded State) where
  lib := ⟨State.initial Settings.harmless [], []⟩
  files := default
  log := []
  cache := Cache.empty
  members := [⟨Held.nothing, default⟩, ⟨Held.nothing, default⟩]

theorem idle_fresh : World.Fresh idle := ⟨rfl, rfl, by simp [idle]⟩

theorem run_reached (happenings : List (Happening State)) : World.Reached mock (World.run mock happenings idle) :=
  ⟨idle, happenings, idle_fresh, rfl⟩

end RemoteExec.Memory

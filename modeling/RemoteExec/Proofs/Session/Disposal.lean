import RemoteExec.Proofs.Session.Ownership

namespace RemoteExec

variable {σ α : Type}

inductive HandleCall where
  | opened (handle : SftpId)
  | closed (handle : SftpId)
deriving DecidableEq

def HandleCall.opened? : HandleCall → Option SftpId
  | .opened handle => some handle
  | .closed _ => none

def HandleCall.closed? : HandleCall → Option SftpId
  | .opened _ => none
  | .closed handle => some handle

def openings (calls : List HandleCall) : List SftpId := calls.filterMap HandleCall.opened?

def closings (calls : List HandleCall) : List SftpId := calls.filterMap HandleCall.closed?

def Disposed (calls : List HandleCall) : Prop := ∀ handle, (closings calls).count handle = (openings calls).count handle

theorem openings_split (opened closed : List SftpId) :
    openings (opened.map .opened ++ closed.map .closed) = opened := by
  simp [openings, List.filterMap_map, Function.comp_def, HandleCall.opened?]

theorem closings_split (opened closed : List SftpId) :
    closings (opened.map .opened ++ closed.map .closed) = closed := by
  simp [closings, List.filterMap_map, Function.comp_def, HandleCall.closed?]

theorem known_count {opened : List SftpId} {last : Option SftpId}
    (known : ∀ handle, last = some handle → handle ∈ opened) (handle : SftpId) : last.toList.count handle ≤ opened.count handle := by
  cases last with
  | none => simp
  | some other =>
      by_cases same : other = handle
      · have opens : 0 < opened.count handle := List.count_pos_iff.mpr (known handle (congrArg some same))
        simpa [same] using opens
      · simp [same]

theorem disposed_split_iff {opened : List SftpId} {last : Option SftpId} :
    Disposed (opened.map .opened ++ last.toList.map .closed) ↔ opened = last.toList := by
  unfold Disposed
  rw [openings_split, closings_split]
  constructor
  · intro same
    have perm : last.toList.Perm opened := List.perm_iff_count.mpr same
    cases last with
    | none => exact perm.symm.eq_nil
    | some handle => exact perm.symm.eq_singleton
  · intro same handle
    rw [same]

structure Tallied (σ : Type) where
  state : σ
  handles : List HandleCall

namespace Tallied

def plain (o : Outside (Tallied σ)) : Outside σ := ⟨o.lib.state, o.files, o.operator, o.log⟩

def noting (note : α → List HandleCall) (op : StateM (Outside σ) α) : StateM (Outside (Tallied σ)) α := fun o =>
  let (outcome, p) := op (plain o)
  (outcome, ⟨⟨p.lib, o.lib.handles ++ note outcome⟩, p.files, p.operator, p.log⟩)

def silent (op : StateM (Outside σ) α) : StateM (Outside (Tallied σ)) α := noting (fun _ => []) op

-- What failed opened or closed nothing.
def opening : Except Failure SftpId → List HandleCall
  | .ok handle => [.opened handle]
  | .error _ => []

def closing (handle : SftpId) : Except Failure Unit → List HandleCall
  | .ok () => [.closed handle]
  | .error _ => []

end Tallied

open Tallied in
def Library.tallied (lib : Library σ) : Library (Tallied σ) where
  name := lib.name
  version := lib.version
  dial := fun r => silent (lib.dial r)
  establish := fun r => silent (lib.establish r)
  isClosed := fun l session => lib.isClosed l.state session
  newChannel := fun session => silent (lib.newChannel session)
  openSftp := fun session => noting opening (lib.openSftp session)
  openScp := fun session => silent (lib.openScp session)
  closeSession := fun session => silent (lib.closeSession session)
  requestPty := fun channel => silent (lib.requestPty channel)
  start := fun channel command => silent (lib.start channel command)
  send := fun channel data => silent (lib.send channel data)
  receive := fun channel timeout limit => silent (lib.receive channel timeout limit)
  exec := fun channel command => silent (lib.exec channel command)
  finish := fun channel timeout => silent (lib.finish channel timeout)
  closeChannel := fun channel => silent (lib.closeChannel channel)
  pieces := fun l channel => lib.pieces l.state channel
  sftpPut := fun handle source target => silent (lib.sftpPut handle source target)
  sftpGet := fun handle source target => silent (lib.sftpGet handle source target)
  closeSftp := fun handle => noting (closing handle) (lib.closeSftp handle)
  scpPut := fun handle source target => silent (lib.scpPut handle source target)
  scpGet := fun handle source target => silent (lib.scpGet handle source target)

theorem Library.tallied_keeps (lib : Library σ) (calls : List HandleCall) :
    lib.tallied.recorded.handleless.Keeps fun l => l.state.handles = calls := by
  have silent : ∀ {l : Recorded (Tallied σ)}, l.state.handles = calls → l.state.handles ++ [] = calls := by
    intro l same
    rw [List.append_nil, same]
  constructor
  all_goals intros
  all_goals first
    | exact silent ‹_›
    | exact fun o same => silent same
    | exact fun o same => same

namespace Connection

variable {lib : Library σ} {c : Connection}

structure Traced (seat : Seat) (calls : List HandleCall) (opened : List SftpId) (s : Scene (Recorded (Tallied σ))) :
    Prop where
  tally : s.outside.lib.state.handles = calls ++ opened.map .opened
  held : ∀ handle, s.held.sftp = some handle → handle ∈ opened
  registered : ∀ handle, s.cache.sftp.get? seat = some handle → handle ∈ opened

namespace Traced

variable {seat : Seat} {calls : List HandleCall} {opened : List SftpId} {s t : Scene (Recorded (Tallied σ))}

theorem apart (traced : Traced seat calls opened s) (apart : Apart lib.tallied.recorded s t) :
    Traced seat calls opened t := by
  have kept : lib.tallied.recorded.unasked.handleless.Keeps fun l => l.state.handles = calls ++ opened.map .opened :=
    (lib.tallied_keeps _).unasked
  refine ⟨apart.kept _ kept traced.tally, fun handle holds => ?_, fun handle shown => ?_⟩
  · rw [apart.held] at holds
    exact traced.held handle holds
  · rw [apart.cache] at shown
    exact traced.registered handle shown

theorem entered (traced : Traced c.seat calls opened s) (sound : s.cache.Sound) :
    Traced c.seat calls opened (entered c s) := by
  refine ⟨traced.tally, traced.held, fun handle shown => ?_⟩
  rw [Connection.entered, sound.sftp.get_enter] at shown
  exact traced.registered handle shown

theorem holding (traced : Traced seat calls opened s) {handle : SftpId} (known : handle ∈ opened) :
    Traced seat calls opened (holding handle s) := by
  refine ⟨traced.tally, fun other holds => ?_, traced.registered⟩
  cases holds
  exact known

theorem asked (lib : Library σ) (traced : Traced seat calls opened s) (session : SessionId) :
    Traced seat calls (opened ++ (lib.tallied.recorded.openSftp session s.outside).1.toOption.toList)
      { s with outside := (lib.tallied.recorded.openSftp session s.outside).2 } := by
  refine ⟨?_, fun handle holds => ?_, fun handle shown => ?_⟩
  · show s.outside.lib.state.handles ++ Tallied.opening (lib.openSftp session _).1 = _
    rw [traced.tally, List.append_assoc, List.map_append]
    refine congrArg (fun noted => calls ++ (opened.map HandleCall.opened ++ noted)) ?_
    show _ = (lib.openSftp session _).1.toOption.toList.map HandleCall.opened
    cases (lib.openSftp session (Tallied.plain (Recorded.plain s.outside))).1 with
    | ok handle => rfl
    | error e => rfl
  · exact List.mem_append_left _ (traced.held handle holds)
  · exact List.mem_append_left _ (traced.registered handle shown)

end Traced

section Operations

variable {calls : List HandleCall} {opened : List SftpId} {s : Scene (Recorded (Tallied σ))}

theorem connect_traced (lib : Library σ) (sound : s.cache.Sound) (traced : Traced c.seat calls opened s) :
    Traced c.seat calls opened (c.connect lib.tallied.recorded s).2 := by
  let Same : Scene (Recorded (Tallied σ)) → Prop := fun t =>
    t.outside.lib.state.handles = calls ++ opened.map .opened ∧ t.held.sftp = s.held.sftp
  have detached : Scene.Detached Same := ⟨fun _ _ same => same, fun _ _ same => same, fun _ _ _ same => same⟩
  have opens : Leads Same (Act.ofOp (c.connectUncached lib.tallied.recorded)) Same := fun t same =>
    ⟨connectUncached_keeps (lib.tallied_keeps _).dial (lib.tallied_keeps _).establish c t.outside same.1, same.2⟩
  obtain ⟨tally, held⟩ := connect_leads detached c opens s ⟨traced.tally, rfl⟩
  refine ⟨tally, fun handle holds => traced.held handle (held ▸ holds), fun handle shown => ?_⟩
  rw [connect_sftp sound] at shown
  by_cases stale : Cache.Stale lib.tallied.recorded c.seat s.cache s.outside.lib
  · rw [Cache.swept_stale stale, Cache.without, Registry.get_erase, if_pos rfl] at shown
    cases shown
  · rw [Cache.swept_kept stale] at shown
    exact traced.registered handle shown

theorem ensureConnected_traced (lib : Library σ) (sound : s.cache.Sound) (traced : Traced c.seat calls opened s) :
    Traced c.seat calls opened (c.ensureConnected lib.tallied.recorded s).2 := by
  by_cases own : OwnOpen lib.tallied.recorded s
  · obtain ⟨session, holds, isOpen⟩ := own
    rw [ensureConnected_own holds isOpen]
    exact traced
  · rw [ensureConnected_connect own]
    exact connect_traced lib sound traced

theorem connectSftp_traced (lib : Library σ) (sound : s.cache.Sound) (traced : Traced c.seat calls opened s) :
    ∃ more, Traced c.seat calls more (c.connectSftp lib.tallied.recorded s).2 ∧
      ∀ handle, (c.connectSftp lib.tallied.recorded s).1 = .ok handle → handle ∈ more := by
  cases known : s.cache.sftp.get? c.seat with
  | some handle =>
      rw [connectSftp_registered known]
      refine ⟨opened, traced, fun other same => ?_⟩
      cases same
      exact traced.registered handle known
  | none =>
      have ensured := ensureConnected_traced lib (entered_sound sound) (traced.entered sound)
      rw [connectSftp_vacant sound known]
      cases ran : c.ensureConnected lib.tallied.recorded (entered c s) with
      | mk outcome mid =>
          rw [ran] at ensured
          cases outcome with
          | error e =>
              refine ⟨opened, ⟨ensured.tally, ensured.held, fun handle shown => ?_⟩, nofun⟩
              rw [Registry.get_abandon] at shown
              exact ensured.registered handle shown
          | ok session =>
              have asked := Traced.asked lib ensured session
              simp only
              cases given : lib.tallied.recorded.openSftp session mid.outside with
              | mk result o =>
                  rw [given] at asked
                  cases result with
                  | error e =>
                      refine ⟨_, ⟨asked.tally, asked.held, fun handle shown => ?_⟩, nofun⟩
                      rw [Registry.get_abandon] at shown
                      exact asked.registered handle shown
                  | ok handle =>
                      have fresh : handle ∈ opened ++ [handle] := List.mem_append_right _ List.mem_cons_self
                      refine ⟨opened ++ [handle], ⟨asked.tally, asked.held, fun other shown => ?_⟩, fun other same => ?_⟩
                      · rcases Registry.get_fill_cases _ _ _ _ _ shown with new | old
                        · rw [new]
                          exact fresh
                        · exact asked.registered other old
                      · cases same
                        exact fresh

def Grown (seat : Seat) (calls : List HandleCall) (t : Scene (Recorded (Tallied σ))) : Prop :=
  ∃ opened, Traced seat calls opened t

theorem bind_grown {β : Type} {seat : Seat} {first : Act (Recorded (Tallied σ)) SessionId}
    {rest : SessionId → Act (Recorded (Tallied σ)) β} (traced : Traced seat calls opened (first s).2)
    (grows : ∀ session mid, Traced seat calls opened mid → Grown seat calls (rest session mid).2) :
    Grown seat calls ((first >>= rest) s).2 := by
  rw [run_bind]
  cases ran : first s with
  | mk outcome mid =>
      rw [ran] at traced
      cases outcome with
      | ok session => exact grows session mid traced
      | error e => exact ⟨opened, traced⟩

theorem sending_grown (lib : Library σ) (source target : String) (protocol : TransferProtocol) {seat : Seat}
    (session : SessionId) (mid : Scene (Recorded (Tallied σ))) (traced : Traced seat calls opened mid) :
    Grown seat calls (sending lib.tallied.recorded source target protocol session mid).2 := by
  cases protocol with
  | scp => exact ⟨opened, traced.apart (sending_scp_apart lib.tallied.recorded source target session mid)⟩
  | sftp =>
      have asked := Traced.asked lib traced session
      rw [sending_sftp]
      cases given : lib.tallied.recorded.openSftp session mid.outside with
      | mk outcome o =>
          rw [given] at asked
          cases outcome with
          | error e => exact ⟨_, asked⟩
          | ok handle =>
              have held := asked.holding (List.mem_append_right opened (List.mem_cons_self (a := handle)))
              exact ⟨_, held.apart (sendThrough_apart _ handle source target _)⟩

theorem exec_grown (lib : Library σ) (sound : s.cache.Sound) (traced : Traced c.seat calls opened s)
    (command : String) (input : Option Bytes) (sudoable : Bool) :
    Grown c.seat calls (c.exec lib.tallied.recorded command input sudoable s).2 := by
  by_cases given : input.getD [] ≠ []
  · obtain ⟨e, refused⟩ := exec_given (s := s) lib.tallied.recorded c command sudoable given
    rw [refused]
    exact ⟨opened, traced⟩
  · rw [exec_commanding _ c command sudoable given]
    refine bind_grown (ensureConnected_traced lib sound traced) fun session mid before => ?_
    exact ⟨opened, before.apart (commanding_apart command sudoable session mid (.refl _ mid))⟩

theorem putFile_grown (lib : Library σ) (sound : s.cache.Sound) (traced : Traced c.seat calls opened s)
    (source target : String) (protocol : TransferProtocol) :
    Grown c.seat calls (c.putFile lib.tallied.recorded source target protocol s).2 := by
  have told : Traced c.seat calls opened (offered source target s) :=
    traced.apart (Apart.told lib.tallied.recorded s _)
  by_cases present : s.outside.files.exists? source = true
  · rw [putFile_present target protocol present]
    have ensured := ensureConnected_traced lib (s := offered source target s) sound told
    exact bind_grown ensured (sending_grown lib source target protocol)
  · rw [putFile_absent target protocol present]
    exact ⟨opened, told⟩

theorem fetchFile_grown (lib : Library σ) (sound : s.cache.Sound) (traced : Traced c.seat calls opened s)
    (source target : String) (protocol : TransferProtocol) :
    Grown c.seat calls (c.fetchFile lib.tallied.recorded source target protocol s).2 := by
  have told : Traced c.seat calls opened (announced source target s) :=
    traced.apart (Apart.told lib.tallied.recorded s _)
  cases protocol with
  | scp =>
      rw [fetchFile_scp]
      have ensured := ensureConnected_traced lib (s := announced source target s) sound told
      refine bind_grown ensured fun session mid before => ?_
      exact ⟨opened, before.apart (fetchingScp_apart lib.tallied.recorded source target session mid)⟩
  | sftp =>
      obtain ⟨more, connected, known⟩ := connectSftp_traced lib (s := announced source target s) sound told
      rw [fetchFile_sftp]
      cases ran : c.connectSftp lib.tallied.recorded (announced source target s) with
      | mk outcome mid =>
          rw [ran] at connected known
          cases outcome with
          | error e => exact ⟨more, connected⟩
          | ok handle =>
              have held := connected.holding (known handle rfl)
              exact ⟨more, held.apart (fetchThrough_apart _ handle source target mid)⟩

end Operations

end Connection

def Operation.Closes : Operation → Prop
  | .close => True
  | .reset => True
  | _ => False

namespace Connection

variable {lib : Library σ} {c : Connection}

theorem operation_grown (lib : Library σ) {calls : List HandleCall} {opened : List SftpId}
    {s : Scene (Recorded (Tallied σ))} (sound : s.cache.Sound) (traced : Traced c.seat calls opened s)
    {operation : Operation} (spares : ¬ operation.Closes) :
    Grown c.seat calls (operation.act lib.tallied.recorded c s).2 := by
  cases operation with
  | connect =>
      rw [Operation.act, scene_unread]
      exact ⟨opened, connect_traced lib sound traced⟩
  | ensureConnected =>
      rw [Operation.act, scene_unread]
      exact ⟨opened, ensureConnected_traced lib sound traced⟩
  | connectSftp =>
      obtain ⟨more, connected, _⟩ := connectSftp_traced lib sound traced
      rw [Operation.act, scene_unread]
      exact ⟨more, connected⟩
  | exec command input sudoable =>
      rw [Operation.act, scene_unread]
      exact exec_grown lib sound traced command input sudoable
  | putFile source target protocol => exact putFile_grown lib sound traced source target protocol
  | fetchFile source target protocol => exact fetchFile_grown lib sound traced source target protocol
  | close => exact absurd trivial spares
  | reset => exact absurd trivial spares

end Connection

-- What the tally shows of an attempt: of closing only the file handles are noted, where it went well.
def Attempt.disposed? : Attempt → Option HandleCall
  | (.sftp handle, .ok ()) => some (.closed handle)
  | _ => none

theorem attempt_tally {lib : Library σ} {o between : Outside (Recorded (Tallied σ))} {outcome : Except Failure Unit}
    (thing : Thing) (ran : thing.close lib.tallied.recorded o = (outcome, between)) :
    between.lib.state.handles = o.lib.state.handles ++ (Attempt.disposed? (thing, outcome)).toList := by
  cases thing with
  | sftp handle =>
      cases ran
      show o.lib.state.handles ++ Tallied.closing handle (lib.closeSftp handle _).1 = _ ++ (Attempt.disposed?
        (.sftp handle, (lib.closeSftp handle (Tallied.plain (Recorded.plain o))).1)).toList
      cases (lib.closeSftp handle (Tallied.plain (Recorded.plain o))).1 with
      | ok done => rfl
      | error e => rfl
  | channel id =>
      cases ran
      rfl
  | session id =>
      cases ran
      rfl

theorem Closings.tally {lib : Library σ} {o after : Outside (Recorded (Tallied σ))} {tried : List Attempt}
    (asked : Closings lib.tallied.recorded o tried after) :
    after.lib.state.handles = o.lib.state.handles ++ tried.filterMap Attempt.disposed? := by
  induction asked with
  | done o => simp
  | told events rest ih => exact ih
  | closed thing ran rest ih =>
      rw [ih, attempt_tally thing ran, List.append_assoc, List.filterMap_cons]
      cases Attempt.disposed? (thing, _) with
      | none => rfl
      | some call => rfl

theorem disposed_things {tried : List Attempt} {h : Held} (all : h.things = tried.map Prod.fst)
    (well : ∀ attempt ∈ tried, attempt.2 = .ok ()) :
    tried.filterMap Attempt.disposed? = h.sftp.toList.map .closed := by
  have outcomes : tried = h.things.map fun thing => (thing, .ok ()) := by
    rw [all, List.map_map]
    refine (List.map_id tried).symm.trans (List.map_congr_left fun attempt tries => ?_)
    exact Prod.ext rfl (well attempt tries)
  rw [outcomes]
  cases h with
  | mk session channel sftp state =>
      cases sftp <;> cases channel <;> cases session <;> rfl

namespace Connection

variable {lib : Library σ} {c : Connection}

theorem close_tally {s t : Scene (Recorded (Tallied σ))} {done : Unit}
    (ran : c.close lib.tallied.recorded s = (.ok done, t)) :
    t.outside.lib.state.handles = s.outside.lib.state.handles ++ s.held.sftp.toList.map .closed := by
  obtain ⟨tried, came⟩ := close_came ran
  have emptied := came.ended.emptied
  have left : s.held.things = tried.map Prod.fst ++ t.held.things := came.left
  rw [emptied, show Held.things ⟨none, none, none, .closed⟩ = [] from rfl, List.append_nil] at left
  rw [came.asked.tally, disposed_things left came.ended.well]

theorem release_leads {P Q : Scene σ → Prop} {take : Held → Option Nat × Held} {close : Nat → Op σ Unit}
    (taken : ∀ s, P s → Q { s with held := (take s.held).2 }) (asked : ∀ s o, Q s → Q { s with outside := o }) :
    Leads P (release take close) Q := by
  intro s before
  have after := taken s before
  rw [release_run]
  cases (take s.held).1 with
  | some id => exact asked _ _ after
  | none => exact after

theorem close_handleless (lib : Library σ) (c : Connection) (s : Scene σ) : (c.close lib s).2.held.sftp = none := by
  obtain ⟨told, evicted⟩ := evict_run c s
  simp only [close, run_bind (a := c.evict), evicted]
  have spares : ∀ {take : Held → Option Nat × Held} (close : Nat → Op σ Unit), (∀ h, (take h).2.sftp = h.sftp) →
      Leads (fun t : Scene σ => t.held.sftp = none) (release take close) fun t => t.held.sftp = none :=
    fun close same => release_leads (fun t free => (same t.held).trans free) fun _ _ free => free
  have takes : Leads (fun _ : Scene σ => True) (release (fun h => (h.sftp, { h with sftp := none })) lib.closeSftp)
      fun t => t.held.sftp = none := release_leads (fun _ _ => rfl) fun _ _ free => free
  refine Leads.keep takes (fun _ => ?_) _ trivial
  refine Leads.keep (spares lib.closeChannel fun _ => rfl) fun _ => ?_
  refine Leads.keep (spares lib.closeSession fun _ => rfl) fun _ => ?_
  exact fun _ free => free

theorem close_traced (lib : Library σ) (c : Connection) (s : Scene (Recorded (Tallied σ))) :
    Traced c.seat (c.close lib.tallied.recorded s).2.outside.lib.state.handles [] (c.close lib.tallied.recorded s).2 := by
  have cache : (c.close lib.tallied.recorded s).2.cache = s.cache.without c.seat := close_cache rfl
  refine ⟨by simp, fun handle holds => ?_, fun handle shown => ?_⟩
  · rw [close_handleless] at holds
    cases holds
  · rw [cache, Cache.without, Registry.get_erase, if_pos rfl] at shown
    cases shown

theorem closing_traced (lib : Library σ) {s : Scene (Recorded (Tallied σ))} (sound : s.cache.Sound)
    {operation : Operation} (closes : operation.Closes) :
    Traced c.seat (operation.act lib.tallied.recorded c s).2.outside.lib.state.handles []
      (operation.act lib.tallied.recorded c s).2 := by
  have closed := close_traced lib c s
  cases operation with
  | close => exact closed
  | reset =>
      rw [Operation.act, scene_unread]
      rcases reset_cases lib.tallied.recorded c s with ⟨e, t, failed, same⟩ | ⟨t, well, same⟩
      · rw [failed] at closed
        rw [same]
        exact closed
      · rw [well] at closed
        rw [same]
        have kept : t.cache.Sound := close_cache well ▸ sound.without c.seat
        have idle : Traced c.seat t.outside.lib.state.handles []
            { t with held := { t.held with state := .disconnected } } := ⟨closed.tally, closed.held, closed.registered⟩
        have connected := connect_traced lib (s := { t with held := { t.held with state := .disconnected } }) kept idle
        have tally := connected.tally
        rw [List.map_nil, List.append_nil] at tally
        rw [tally]
        exact connected
  | _ => exact closes.elim

end Connection

namespace Happening

def tallied : Happening σ → Happening (Tallied σ)
  | .act i c operation => .act i c operation
  | .server change => .server fun l => { l with state := change l.state }

def By (i : Nat) (c : Connection) : Happening σ → Prop
  | .act j d _ => j = i ∧ d = c
  | .server _ => True

def Closes : Happening σ → Prop
  | .act _ _ operation => operation.Closes
  | .server _ => False

end Happening

namespace World

open Connection

variable {lib : Library σ} {c : Connection} {i : Nat} {w : World (Recorded (Tallied σ))}

def runTallied (lib : Library σ) (happenings : List (Happening σ)) (start : World (Recorded (Tallied σ))) :
    World (Recorded (Tallied σ)) :=
  run lib.tallied (happenings.map Happening.tallied) start

theorem scene_withScene {τ : Type} {w : World τ} (known : i < w.members.length) (s : Scene τ) :
    (w.withScene i s).scene i = s := by
  simp [withScene, scene, known]

structure Minds (i : Nat) (seat : Seat) (calls : List HandleCall) (opened : List SftpId)
    (w : World (Recorded (Tallied σ))) : Prop where
  known : i < w.members.length
  consistent : Consistent w.cache w.lib
  traced : Traced seat calls opened (w.scene i)

theorem Minds.step {calls : List HandleCall} {opened : List SftpId} {seat : Seat} (minds : Minds i seat calls opened w)
    {operation : Operation} {newCalls : List HandleCall} {newOpened : List SftpId}
    (after : Traced seat newCalls newOpened (operation.act lib.tallied.recorded c (w.scene i)).2) :
    Minds i seat newCalls newOpened (step lib.tallied w (.act i c operation)) := by
  refine ⟨(step_size _).symm ▸ minds.known, step_consistent w _ minds.consistent, ?_⟩
  exact (scene_withScene minds.known _).symm ▸ after

theorem step_minds (lib : Library σ) {calls : List HandleCall} {opened : List SftpId} (minds : Minds i c.seat calls opened w)
    {happening : Happening σ} (own : happening.By i c) (spares : ¬ happening.Closes) :
    ∃ more, Minds i c.seat calls more (step lib.tallied w happening.tallied) := by
  cases happening with
  | server change =>
      obtain ⟨known, ⟨sound, registered⟩, tally, held, shown⟩ := minds
      exact ⟨opened, known, ⟨sound, registered⟩, tally, held, shown⟩
  | act j d operation =>
      obtain ⟨rfl, rfl⟩ := own
      obtain ⟨more, grown⟩ := operation_grown lib minds.consistent.sound minds.traced spares
      exact ⟨more, minds.step grown⟩

theorem step_closes (lib : Library σ) {calls : List HandleCall} {opened : List SftpId}
    (minds : Minds i c.seat calls opened w) {happening : Happening σ} (own : happening.By i c) (closes : happening.Closes) :
    Minds i c.seat (step lib.tallied w happening.tallied).lib.state.handles [] (step lib.tallied w happening.tallied) := by
  cases happening with
  | server change => exact closes.elim
  | act j d operation =>
      obtain ⟨rfl, rfl⟩ := own
      exact minds.step (closing_traced lib minds.consistent.sound closes)

-- What was opened is counted from where it was counted before, unless something closed on the way.
theorem run_minds (lib : Library σ) {calls : List HandleCall} {opened : List SftpId} (minds : Minds i c.seat calls opened w)
    (happenings : List (Happening σ)) (own : ∀ happening ∈ happenings, happening.By i c) :
    ∃ since more, Minds i c.seat since more (runTallied lib happenings w) ∧
      ((∀ happening ∈ happenings, ¬ happening.Closes) → since = calls) := by
  induction happenings generalizing w calls opened with
  | nil => exact ⟨calls, opened, minds, fun _ => rfl⟩
  | cons first rest ih =>
      obtain ⟨ownFirst, ownRest⟩ := List.forall_mem_cons.mp own
      by_cases closes : first.Closes
      · obtain ⟨since, more, after, _⟩ := ih (step_closes lib minds ownFirst closes) ownRest
        exact ⟨since, more, after, fun spares => absurd closes (spares first List.mem_cons_self)⟩
      · obtain ⟨new, stepped⟩ := step_minds lib minds ownFirst closes
        obtain ⟨since, more, after, same⟩ := ih stepped ownRest
        exact ⟨since, more, after, fun spares => same (List.forall_mem_cons.mp spares).2⟩

theorem Fresh.minds {start : World (Recorded (Tallied σ))} (fresh : Fresh start) (known : i < start.members.length)
    (seat : Seat) : Minds i seat start.lib.state.handles [] start := by
  have nothing : (start.scene i).held = Held.nothing := by
    simp only [scene, List.getElem?_eq_getElem known, Option.getD_some]
    exact fresh.members _ (List.getElem_mem known)
  have bare : (start.scene i).cache = Cache.empty := fresh.cache
  refine ⟨known, fresh.consistent, by simp [scene], fun handle holds => ?_, fun handle shown => ?_⟩
  · rw [nothing] at holds
    cases holds
  · rw [bare] at shown
    cases shown

def Begun (happenings : List (Happening σ)) : Prop :=
  happenings = [] ∨ ∃ before last, happenings = before ++ [last] ∧ last.Closes

theorem runTallied_append (lib : Library σ) (earlier later : List (Happening σ)) (start : World (Recorded (Tallied σ))) :
    runTallied lib (earlier ++ later) start = runTallied lib later (runTallied lib earlier start) := by
  simp only [runTallied, run, List.map_append, List.foldl_append]

theorem Begun.minds (lib : Library σ) {start : World (Recorded (Tallied σ))} (fresh : Fresh start)
    (known : i < start.members.length) {happenings : List (Happening σ)} (own : ∀ happening ∈ happenings, happening.By i c)
    (begun : Begun happenings) :
    Minds i c.seat (runTallied lib happenings start).lib.state.handles [] (runTallied lib happenings start) := by
  rcases begun with none | ⟨before, last, same, closes⟩
  · rw [none]
    exact fresh.minds known c.seat
  · rw [same] at own ⊢
    obtain ⟨ownBefore, ownLast⟩ := List.forall_mem_append.mp own
    obtain ⟨since, more, minds, _⟩ := run_minds lib (fresh.minds known c.seat) before ownBefore
    rw [runTallied_append]
    exact step_closes lib minds (ownLast last List.mem_cons_self) closes

theorem disposed_iff (lib : Library σ) (start : World (Recorded (Tallied σ))) (fresh : Fresh start) (i : Nat)
    (known : i < start.members.length) (c : Connection) (earlier later : List (Happening σ))
    (own : ∀ happening ∈ earlier ++ later, happening.By i c) (begun : Begun earlier)
    (unclosed : ∀ happening ∈ later, ¬ happening.Closes) (after : World (Recorded (Tallied σ)))
    (ran : act i (c.close lib.tallied.recorded) (runTallied lib (earlier ++ later) start) = (.ok (), after)) :
    let held := ((runTallied lib (earlier ++ later) start).scene i).held.sftp.toList
    ∃ calls, after.lib.state.handles = (runTallied lib earlier start).lib.state.handles ++ calls ∧
      closings calls = held ∧
      (∀ handle, (closings calls).count handle ≤ (openings calls).count handle) ∧
      (Disposed calls ↔ openings calls = held) := by
  intro held
  obtain ⟨ownEarlier, ownLater⟩ := List.forall_mem_append.mp own
  obtain ⟨since, opened, minds, same⟩ := run_minds lib (begun.minds lib fresh known ownEarlier) later ownLater
  cases same unclosed
  rw [← runTallied_append] at minds
  cases closed : c.close lib.tallied.recorded ((runTallied lib (earlier ++ later) start).scene i) with
  | mk outcome t =>
      rw [act, closed] at ran
      cases ran
      have tally := close_tally closed
      rw [minds.traced.tally, List.append_assoc] at tally
      refine ⟨opened.map HandleCall.opened ++ held.map HandleCall.closed, tally, closings_split opened held, ?_, ?_⟩
      · intro handle
        rw [openings_split, closings_split]
        exact known_count minds.traced.held handle
      · rw [openings_split]
        exact disposed_split_iff

def alone : World (Recorded (Tallied Memory.State)) where
  lib := ⟨⟨Memory.State.initial Memory.Settings.harmless [], []⟩, []⟩
  files := FileSystem.empty.put ["tmp", "work", "from"] (.file [104, 105] 0o644)
  log := []
  cache := Cache.empty
  members := [⟨Held.nothing, default⟩]

def send : Operation := .putFile "from" "to" .sftp

def sentTwice : List (Happening Memory.State) := [.act 0 Memory.web send, .act 0 Memory.web send]

theorem replaced_handle_undisposed :
    (∀ n < 2, ∃ after, act 0 (send.act Memory.mock.tallied.recorded Memory.web)
      (runTallied Memory.mock (sentTwice.take n) alone) = (.ok (), after)) ∧
    ∃ after, act 0 (Memory.web.close Memory.mock.tallied.recorded) (runTallied Memory.mock sentTwice alone) =
        (.ok (), after) ∧
      after.lib.state.handles = [.opened 0, .opened 1, .closed 1] ∧ ¬ Disposed after.lib.state.handles := by
  refine ⟨fun n among => ?_, _, rfl, rfl, fun disposed => ?_⟩
  · match n, among with
    | 0, _ => exact ⟨_, rfl⟩
    | 1, _ => exact ⟨_, rfl⟩
  · cases (show 0 = 1 from disposed 0)

theorem sent_again_disposed :
    ∃ after calls, act 0 (Memory.web.close Memory.mock.tallied.recorded)
        (runTallied Memory.mock (sentTwice ++ [.act 0 Memory.web .close] ++ [.act 0 Memory.web send]) alone) =
        (.ok (), after) ∧
      after.lib.state.handles = [.opened 0, .opened 1, .closed 1] ++ calls ∧ closings calls = [2] ∧ Disposed calls := by
  have fresh : Fresh alone := ⟨rfl, rfl, by simp [alone]⟩
  obtain ⟨calls, grown, closed, _, disposed⟩ := disposed_iff Memory.mock alone fresh 0 Nat.zero_lt_one Memory.web
    (sentTwice ++ [.act 0 Memory.web .close]) [.act 0 Memory.web send] (by simp [sentTwice, Happening.By])
    (Or.inr ⟨sentTwice, .act 0 Memory.web .close, rfl, trivial⟩) (by simp [Happening.Closes, Operation.Closes, send]) _ rfl
  have listed : [.opened 0, .opened 1, .closed 1] ++ [.opened 2, .closed 2] = [.opened 0, .opened 1, .closed 1] ++ calls :=
    grown
  refine ⟨_, calls, rfl, grown, closed, disposed.mpr ?_⟩
  cases List.append_cancel_left listed
  rfl

end World
end RemoteExec

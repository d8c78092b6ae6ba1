import RemoteExec.Proofs.Session.Handles
import RemoteExec.Proofs.Session.Staying

namespace RemoteExec

variable {σ : Type}

namespace Connection

section Registering

variable {lib : Library σ} {c : Connection} {s t : Scene σ}

-- Opening a handle may take a connect, and that connect evicts what is registered for the seat when it finds
-- a closed session there: also the entry whose handle is being opened.
def LosesEntry (lib : Library σ) (c : Connection) (s : Scene σ) : Prop :=
  s.cache.sftp.get? c.seat = none ∧ Evicts lib c s

theorem connectSftp_lost (sound : s.cache.Sound) (loses : LosesEntry lib c s) {handle : SftpId}
    (ran : c.connectSftp lib s = (.ok handle, t)) : t.cache.sftp.get? c.seat = none := by
  have erased : (c.ensureConnected lib (entered c s)).2.cache.sftp = (entered c s).cache.sftp.erase c.seat :=
    ensureConnected_evicts (entered_sound sound) loses.2
  obtain ⟨session, between, o, ensured, _, same⟩ := connectSftp_made sound loses.1 ran
  rw [ensured] at erased
  replace erased : between.cache.sftp = (entered c s).cache.sftp.erase c.seat := erased
  have away : between.cache.sftp.cell? c.seat ≠ some (s.cache.sftp.enter c.seat).1 := by
    simp [erased, Registry.cell_erase]
  rw [same]
  show (between.cache.sftp.fill _ handle).get? c.seat = none
  rw [Registry.get_fill_elsewhere _ _ _ _ away, erased, Registry.get_erase, if_pos rfl]

theorem connectSftp_registers (sound : s.cache.Sound) (keeps : ¬ LosesEntry lib c s) {handle : SftpId}
    (ran : c.connectSftp lib s = (.ok handle, t)) : t.cache.sftp.get? c.seat = some handle := by
  cases known : s.cache.sftp.get? c.seat with
  | some registered =>
      rw [connectSftp_registered known] at ran
      cases ran
      exact known
  | none =>
      have spared : (c.ensureConnected lib (entered c s)).2.cache.sftp = (entered c s).cache.sftp :=
        ensureConnected_spares (entered_sound sound) fun evicts => keeps ⟨known, evicts⟩
      obtain ⟨session, between, o, ensured, _, same⟩ := connectSftp_made sound known ran
      rw [ensured] at spared
      replace spared : between.cache.sftp = (entered c s).cache.sftp := spared
      rw [same]
      refine Registry.get_fill _ _ _ _ ?_
      simp [spared, entered, Registry.cell_enter]

theorem connectSftp_registers_iff (sound : s.cache.Sound) {handle : SftpId}
    (ran : c.connectSftp lib s = (.ok handle, t)) :
    t.cache.sftp.get? c.seat = some handle ↔ ¬ LosesEntry lib c s := by
  refine ⟨fun registered loses => ?_, fun keeps => connectSftp_registers sound keeps ran⟩
  rw [connectSftp_lost sound loses ran] at registered
  cases registered

end Registering

section Fetching

variable {lib : Library σ} {c : Connection} {s t : Scene (Recorded σ)}

theorem fetchThrough_silent (handle : SftpId) (source target : String) :
    (fetchThrough lib.recorded handle source target s).2.outside.lib.calls = s.outside.lib.calls := by
  simp only [fetchThrough, holdSftp, run_bind, Act.run_hold, scene_ofIo]
  exact List.append_nil s.outside.lib.calls

theorem fetch_registered {handle : SftpId} (registered : s.cache.sftp.get? c.seat = some handle)
    (source target : String) :
    (c.fetchFile lib.recorded source target .sftp s).2.outside.lib.calls = s.outside.lib.calls := by
  rw [fetchFile_sftp, connectSftp_registered (s := announced source target s) registered]
  exact fetchThrough_silent handle source target

theorem ensureConnected_live (live : Cache.Live lib.recorded c.seat s.cache s.outside.lib) :
    ∃ session t, c.ensureConnected lib.recorded s = (.ok session, t) ∧ t.outside.lib = s.outside.lib := by
  by_cases own : OwnOpen lib.recorded s
  · obtain ⟨session, holds, isOpen⟩ := own
    exact ⟨session, s, ensureConnected_own holds isOpen, rfl⟩
  · obtain ⟨session, registered, isOpen⟩ := live
    obtain ⟨told, found⟩ := connect_live registered isOpen
    exact ⟨session, _, (ensureConnected_connect own).trans found, rfl⟩

theorem fetch_vacant (sound : s.cache.Sound) (vacant : s.cache.sftp.get? c.seat = none)
    (live : Cache.Live lib.recorded c.seat s.cache s.outside.lib) (source target : String) :
    ∃ session outcome, (c.fetchFile lib.recorded source target .sftp s).2.outside.lib.calls =
      s.outside.lib.calls ++ [.openSftp session outcome] := by
  rw [fetchFile_sftp, connectSftp_vacant (s := announced source target s) sound vacant]
  obtain ⟨session, between, ensured, unasked⟩ :=
    ensureConnected_live (c := c) (s := entered c (announced source target s)) live
  obtain ⟨outcome, after, _, asked⟩ := lib.recorded_openSftp session between.outside
  refine ⟨session, outcome, ?_⟩
  have calls : between.outside.lib.calls = s.outside.lib.calls := congrArg Recorded.calls unasked
  simp only [ensured, asked]
  cases outcome with
  | error e => exact congrArg (· ++ [_]) calls
  | ok handle => exact (fetchThrough_silent handle source target).trans (congrArg (· ++ [_]) calls)

theorem connectSftp_lost_live (yields : lib.YieldsOpen) (spares : lib.SparesSession) (sound : s.cache.Sound)
    (loses : LosesEntry lib.recorded c s) {handle : SftpId} (ran : c.connectSftp lib.recorded s = (.ok handle, t)) :
    Cache.Live lib.recorded c.seat t.cache t.outside.lib := by
  obtain ⟨session, between, o, ensured, opened, same⟩ := connectSftp_made sound loses.1 ran
  rw [ensureConnected_connect (s := entered c s) loses.2.1] at ensured
  have shares := connect_shares yields (entered_sound sound) ensured
  obtain ⟨outcome, after, plain, asked⟩ := lib.recorded_openSftp session between.outside
  rw [asked] at opened
  cases opened
  rw [same]
  exact ⟨session, shares.registered, spares session _ handle after plain shares.isOpen⟩

end Fetching

end Connection
namespace World

open Connection

theorem handle_reused_iff (lib : Library σ) (yields : lib.YieldsOpen) (spares : lib.SparesSession)
    (w : World (Recorded σ)) (reached : Reached lib w) (i : Nat) (c : Connection) (handle : SftpId)
    (after : World (Recorded σ)) (ran : act i (c.connectSftp lib.recorded) w = (.ok handle, after)) :
    (after.cache.sftp.get? c.seat = some handle ↔ ¬ LosesEntry lib.recorded c (w.scene i)) ∧
    (LosesEntry lib.recorded c (w.scene i) → ∀ j (d : Connection) source target, d.seat = c.seat →
      ∃ session outcome, (act j (d.fetchFile lib.recorded source target .sftp) after).2.lib.calls =
        after.lib.calls ++ [.openSftp session outcome]) ∧
    (¬ LosesEntry lib.recorded c (w.scene i) → ∀ happenings, Undisturbed lib c.seat happenings after →
      (run lib happenings after).cache.sftp.get? c.seat = some handle ∧
      ∀ j (d : Connection) source target, d.seat = c.seat →
        (act j (d.fetchFile lib.recorded source target .sftp) (run lib happenings after)).2.lib.calls =
          (run lib happenings after).lib.calls) := by
  have consistent := reached.consistent
  cases result : c.connectSftp lib.recorded (w.scene i) with
  | mk outcome t =>
      rw [act, result] at ran
      cases ran
      have kept : Scene.Has Consistent (c.connectSftp lib.recorded (w.scene i)).2 :=
        connectSftp_consistent (w.scene i) consistent
      rw [result] at kept
      refine ⟨connectSftp_registers_iff (s := w.scene i) consistent.sound result, ?_, ?_⟩
      · intro loses j d source target same
        have vacant := connectSftp_lost (s := w.scene i) consistent.sound loses result
        have live := connectSftp_lost_live yields spares (s := w.scene i) consistent.sound loses result
        rw [← same] at vacant live
        exact fetch_vacant (s := (w.withScene i t).scene j) kept.sound vacant live source target
      · intro keeps happenings undisturbed
        have registered := connectSftp_registers (s := w.scene i) consistent.sound keeps result
        have stays := run_stays happenings (w.withScene i t) kept.sound registered undisturbed
        refine ⟨stays, fun j d source target same => ?_⟩
        rw [← same] at stays
        exact fetch_registered (s := (run lib happenings (w.withScene i t)).scene j) stays source target

theorem handle_not_registered :
    ¬ ∀ w, Reached Memory.mock w → ∀ i (c : Connection) handle after,
      act i (c.connectSftp Memory.mock.recorded) w = (.ok handle, after) →
        after.cache.sftp.get? c.seat = some handle := by
  intro always
  exact absurd (always _ (Memory.run_reached dropped) 0 Memory.web 0 _ rfl) (by decide)

theorem loses_entry_dropped :
    LosesEntry Memory.mock.recorded Memory.web ((run Memory.mock dropped Memory.idle).scene 0) := by
  refine ⟨rfl, ?_, 0, rfl, rfl⟩
  rintro ⟨own, holds, isOpen⟩
  cases (show some 0 = some own from holds)
  exact absurd isOpen (by decide)

def uptime : List (Happening Memory.State) := [.act 1 Memory.web (.exec "uptime" none false)]

theorem handle_reused_unless_dropped :
    (∃ after, act 0 (Memory.web.connectSftp Memory.mock.recorded) (run Memory.mock dropped Memory.idle) =
        (.ok 0, after) ∧
      after.cache.sftp.get? Memory.web.seat ≠ some 0 ∧
      ∃ session outcome, (act 1 (Memory.web.fetchFile Memory.mock.recorded "a" "b" .sftp) after).2.lib.calls =
        after.lib.calls ++ [.openSftp session outcome]) ∧
    (∃ after, act 0 (Memory.web.connectSftp Memory.mock.recorded) (run Memory.mock [] Memory.idle) = (.ok 0, after) ∧
      (run Memory.mock uptime after).cache.sftp.get? Memory.web.seat = some 0 ∧
      (act 1 (Memory.web.fetchFile Memory.mock.recorded "a" "b" .sftp) (run Memory.mock uptime after)).2.lib.calls =
        (run Memory.mock uptime after).lib.calls) := by
  have yields : Memory.mock.YieldsOpen := Memory.library_yields_open "mock" ⟨1, 0, 0⟩
  have spares : Memory.mock.SparesSession := Memory.library_spares_session "mock" ⟨1, 0, 0⟩
  obtain ⟨held, again, _⟩ := handle_reused_iff Memory.mock yields spares _ (Memory.run_reached dropped) 0 Memory.web 0 _ rfl
  obtain ⟨_, _, kept⟩ := handle_reused_iff Memory.mock yields spares _ (Memory.run_reached []) 0 Memory.web 0 _ rfl
  refine ⟨⟨_, rfl, fun registered => held.mp registered loses_entry_dropped, ?_⟩, ⟨_, rfl, ?_⟩⟩
  · exact again loses_entry_dropped 1 Memory.web "a" "b" rfl
  · have stays : ¬ LosesEntry Memory.mock.recorded Memory.web ((run Memory.mock [] Memory.idle).scene 0) := by
      rintro ⟨_, _, session, registered, _⟩
      cases registered
    have later := kept stays uptime ⟨?_, ?_, trivial⟩
    · exact ⟨later.1, later.2 1 Memory.web "a" "b" rfl⟩
    · rintro ⟨session, registered, closed⟩
      cases (show some 0 = some session from registered)
      exact absurd closed (by decide)
    · rintro ⟨closes, _⟩
      cases closes with
      | inl same => cases same
      | inr same => cases same

end World
end RemoteExec

import RemoteExec.Proofs.Session.Sharing

namespace RemoteExec

variable {σ : Type}

namespace Connection

variable {lib : Library σ} {c : Connection}

-- A handle was handed out whose session is closed exactly if the handle was registered and its session
-- closed before.
def HandsOut (lib : Library σ) (seat : Seat) (cache : Cache) (l l' : Recorded σ) (handle : SftpId) : Prop :=
  ∃ session, openedOn l'.calls handle = some session ∧
    (lib.isClosed l'.state session = true ↔
      cache.sftp.get? seat = some handle ∧ lib.isClosed l.state session = true)

theorem connectSftp_hands_out (yields : lib.YieldsOpen) (spares : lib.SparesSession) {s t : Scene (Recorded σ)}
    (consistent : Scene.Has Consistent s) {handle : SftpId} (ran : c.connectSftp lib.recorded s = (.ok handle, t)) :
    HandsOut lib c.seat s.cache s.outside.lib t.outside.lib handle := by
  cases known : s.cache.sftp.get? c.seat with
  | some registered =>
      rw [connectSftp_registered known] at ran
      cases ran
      obtain ⟨session, opened⟩ := Option.ne_none_iff_exists'.mp (consistent.opened c.seat handle known)
      exact ⟨session, opened, fun closed => ⟨known, closed⟩, fun both => both.2⟩
  | none =>
      obtain ⟨session, between, o, ensured, opened, same⟩ := connectSftp_made consistent.sound known ran
      have isOpen := ensureConnected_yields yields (entered_sound consistent.sound) ensured
      obtain ⟨outcome, after, plain, asked⟩ := lib.recorded_openSftp session between.outside
      rw [asked] at opened
      cases opened
      have spared : lib.isClosed after.lib session = false := spares session _ handle after plain isOpen
      rw [same]
      refine ⟨session, opened_last _ session handle, ?_⟩
      simp [known, spared]

def announced (source target : String) (s : Scene σ) : Scene σ :=
  { s with outside := s.outside.tell [⟨.info, "FETCH " ++ source ++ " TO " ++ target⟩] }

def fetchThrough (lib : Library σ) (handle : SftpId) (source target : String) : Act σ Unit := do
  holdSftp handle
  ofIo (lib.sftpGet handle source target) fun e =>
    .transferFailed ("failed to transfer file from " ++ source ++ ": " ++ e.message)

theorem fetchFile_sftp (lib : Library σ) (c : Connection) (source target : String) (s : Scene σ) :
    c.fetchFile lib source target .sftp s =
      match c.connectSftp lib (announced source target s) with
      | (.ok handle, t) => fetchThrough lib handle source target t
      | (.error e, t) =>
        (.error (.transferFailed ("failed to open a SFTP connection (" ++ e.message ++ ")")), t) := by
  simp only [fetchFile, run_bind, Act.run_tell, openingSftp, Act.run_attempt]
  rw [← announced]
  cases c.connectSftp lib (announced source target s) with
  | mk outcome t =>
      cases outcome with
      | ok handle => rfl
      | error e => rfl

end Connection

namespace World

open Connection

theorem handle_closed_iff (lib : Library σ) (yields : lib.YieldsOpen) (spares : lib.SparesSession)
    (w : World (Recorded σ)) (reached : Reached lib w) (i : Nat) (c : Connection) :
    (∀ handle after, act i (c.connectSftp lib.recorded) w = (.ok handle, after) →
      HandsOut lib c.seat w.cache w.lib after.lib handle) ∧
    (∀ source target,
      (∃ e after, c.fetchFile lib.recorded source target .sftp (w.scene i) =
        (.error (.transferFailed ("failed to open a SFTP connection (" ++ e ++ ")")), after)) ∨
      (∃ handle between, HandsOut lib c.seat w.cache w.lib between.outside.lib handle ∧
        c.fetchFile lib.recorded source target .sftp (w.scene i) =
          fetchThrough lib.recorded handle source target between)) := by
  have consistent := reached.consistent
  refine ⟨?_, ?_⟩
  · intro handle after ran
    cases result : c.connectSftp lib.recorded (w.scene i) with
    | mk outcome t =>
        rw [act, result] at ran
        cases ran
        exact connectSftp_hands_out yields spares (s := w.scene i) consistent result
  · intro source target
    rw [fetchFile_sftp]
    cases result : c.connectSftp lib.recorded (announced source target (w.scene i)) with
    | mk outcome t =>
        cases outcome with
        | error e => exact Or.inl ⟨e.message, t, rfl⟩
        | ok handle =>
            have hands := connectSftp_hands_out yields spares (s := announced source target (w.scene i)) consistent result
            exact Or.inr ⟨handle, t, hands, rfl⟩

def dropUnderHandle : List (Happening Memory.State) := [.act 0 Memory.web .connectSftp, .server Memory.dropSessions]

theorem handle_on_closed_session :
    ¬ ∀ w, Reached Memory.mock w → ∀ i (c : Connection) handle after,
      act i (c.connectSftp Memory.mock.recorded) w = (.ok handle, after) →
        ∀ session, openedOn after.lib.calls handle = some session →
          Memory.mock.isClosed after.lib.state session = false := by
  intro always
  exact absurd (always _ (Memory.run_reached dropUnderHandle) 0 Memory.web 0 _ rfl 0 rfl) (by decide)

theorem handle_closed_iff_dropped :
    (∃ after, act 1 (Memory.web.connectSftp Memory.mock.recorded) (run Memory.mock dropUnderHandle Memory.idle) =
        (.ok 0, after) ∧
      ∃ session, openedOn after.lib.calls 0 = some session ∧
        Memory.mock.isClosed after.lib.state session = true) ∧
    (∃ after, act 1 (Memory.web.connectSftp Memory.mock.recorded) (run Memory.mock dropped Memory.idle) =
        (.ok 0, after) ∧
      ∃ session, openedOn after.lib.calls 0 = some session ∧
        Memory.mock.isClosed after.lib.state session = false) := by
  have yields : Memory.mock.YieldsOpen := Memory.library_yields_open "mock" ⟨1, 0, 0⟩
  have spares : Memory.mock.SparesSession := Memory.library_spares_session "mock" ⟨1, 0, 0⟩
  obtain ⟨under, opened, stale⟩ :=
    (handle_closed_iff Memory.mock yields spares _ (Memory.run_reached dropUnderHandle) 1 Memory.web).1 0 _ rfl
  obtain ⟨fresh, openedFresh, iff⟩ :=
    (handle_closed_iff Memory.mock yields spares _ (Memory.run_reached dropped) 1 Memory.web).1 0 _ rfl
  cases (show some 0 = some under from opened)
  refine ⟨⟨_, rfl, 0, opened, stale.mpr ⟨rfl, rfl⟩⟩, ⟨_, rfl, fresh, openedFresh, ?_⟩⟩
  refine Bool.eq_false_iff.mpr fun closed => ?_
  exact absurd (iff.mp closed).1 (by decide)

end World
end RemoteExec

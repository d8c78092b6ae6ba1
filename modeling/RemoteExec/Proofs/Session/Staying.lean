import RemoteExec.Proofs.Session.Runs

namespace RemoteExec

variable {σ : Type}

namespace Connection

variable {lib : Library σ} {c : Connection} {seat : Seat} {handle : SftpId}

def Registered (seat : Seat) (handle : SftpId) (cache : Cache) (_ : σ) : Prop :=
  cache.Sound ∧ cache.sftp.get? seat = some handle

def Settled (lib : Library σ) (c : Connection) (seat : Seat) (handle : SftpId) (cache : Cache) (l : σ) : Prop :=
  Registered seat handle cache l ∧ (c.seat = seat → ¬ Cache.Stale lib seat cache l)

theorem registered_without {cache : Cache} {l : σ} (registered : Registered seat handle cache l) (other : Seat)
    (apart : other ≠ seat) : Registered seat handle (cache.without other) l := by
  refine ⟨registered.1.without other, ?_⟩
  simp only [Cache.without, Registry.get_erase, if_neg (Ne.symm apart)]
  exact registered.2

theorem connect_stays :
    Leads (Scene.Has (Settled lib c seat handle)) (c.connect lib) (Scene.Has (Registered seat handle)) := by
  intro s settled
  refine ⟨connect_sound settled.1.1, ?_⟩
  rw [connect_sftp settled.1.1]
  by_cases stale : Cache.Stale lib c.seat s.cache s.outside.lib
  · have apart : c.seat ≠ seat := fun same => settled.2 same (same ▸ stale)
    rw [Cache.swept_stale stale]
    exact (registered_without settled.1 c.seat apart).2
  · rw [Cache.swept_kept stale]
    exact settled.1.2

theorem ensureConnected_stays :
    Leads (Scene.Has (Settled lib c seat handle)) (c.ensureConnected lib) (Scene.Has (Registered seat handle)) := by
  intro s settled
  by_cases own : OwnOpen lib s
  · obtain ⟨session, holds, isOpen⟩ := own
    rw [ensureConnected_own holds isOpen]
    exact settled.1
  · rw [ensureConnected_connect own]
    exact connect_stays s settled

theorem connectSftp_stays :
    Leads (Scene.Has (Settled lib c seat handle)) (c.connectSftp lib) (Scene.Has (Registered seat handle)) := by
  intro s settled
  have sound : s.cache.Sound := settled.1.1
  cases known : s.cache.sftp.get? c.seat with
  | some other =>
      rw [connectSftp_registered known]
      exact settled.1
  | none =>
      have entering : Scene.Has (Settled lib c seat handle) (entered c s) :=
        ⟨⟨entered_sound sound, (sound.sftp.get_enter c.seat seat).trans settled.1.2⟩, settled.2⟩
      have kept := ensureConnected_stays (entered c s) entering
      have used : (s.cache.sftp.enter c.seat).1 < (c.ensureConnected lib (entered c s)).2.cache.sftp.next :=
        entered_cell_used sound
      have unfilled : (c.ensureConnected lib (entered c s)).2.cache.sftp.value? (s.cache.sftp.enter c.seat).1 = none :=
        entered_cell_vacant sound known
      rw [connectSftp_vacant sound known]
      cases ensured : c.ensureConnected lib (entered c s) with
      | mk outcome between =>
          rw [ensured] at kept used unfilled
          have registered : between.cache.sftp.get? seat = some handle := kept.2
          -- The new cell has no value yet, so it is not the one of this handle.
          have away : between.cache.sftp.cell? seat ≠ some (s.cache.sftp.enter c.seat).1 := by
            intro leads
            rw [Registry.get?, leads] at registered
            exact absurd registered (by simp [show between.cache.sftp.value? _ = none from unfilled])
          have failed : ∀ l : σ, Registered seat handle { between.cache with
              sftp := between.cache.sftp.abandon c.seat (s.cache.sftp.enter c.seat).1 } l :=
            fun _ => ⟨⟨kept.1.sessions, kept.1.sftp.abandon c.seat _⟩, (Registry.get_abandon _ _ _ _).trans registered⟩
          cases outcome with
          | error e => exact failed between.outside.lib
          | ok session =>
              simp only
              cases lib.openSftp session between.outside with
              | mk result o =>
                  cases result with
                  | error e => exact failed o.lib
                  | ok fresh =>
                      refine ⟨⟨kept.1.sessions, kept.1.sftp.fill _ fresh used⟩, ?_⟩
                      exact (Registry.get_fill_elsewhere _ seat _ fresh away).trans registered

theorem operation_stays (operation : Operation)
    (spared : operation = .close ∨ operation = .reset → c.seat ≠ seat) :
    Leads (Scene.Has (Settled lib c seat handle)) (operation.act lib c) (Scene.Has (Registered seat handle)) := by
  have calls : ∀ cache, lib.Keeps (Registered seat handle cache) := fun cache => lib.keeps_const _
  have weaker : ∀ cache l, Settled lib c seat handle cache l → Registered seat handle cache l := fun _ _ settled => settled.1
  have closes (apart : c.seat ≠ seat) :
      Leads (Scene.Has (Settled lib c seat handle)) (c.close lib) (Scene.Has (Registered seat handle)) :=
    close_leads (fun cache => (calls cache).closing) c fun s settled => registered_without (l := s.outside.lib) settled.1 c.seat apart
  cases operation with
  | connect => exact connect_stays.keep fun _ => Act.pure_keeps _
  | ensureConnected => exact ensureConnected_stays.keep fun _ => Act.pure_keeps _
  | connectSftp => exact connectSftp_stays.keep fun _ => Act.pure_keeps _
  | exec command input sudoable =>
      exact (exec_leads calls weaker c ensureConnected_stays command input sudoable).keep fun _ => Act.pure_keeps _
  | putFile source target protocol => exact putFile_leads calls weaker c ensureConnected_stays source target protocol
  | fetchFile source target protocol =>
      exact fetchFile_leads calls weaker c ensureConnected_stays connectSftp_stays source target protocol
  | close => exact closes (spared (Or.inl rfl))
  | reset =>
      have apart : c.seat ≠ seat := spared (Or.inr rfl)
      have connects : Leads (Scene.Has (Registered seat handle)) (c.connect lib) (Scene.Has (Registered seat handle)) :=
        fun s registered => connect_stays s ⟨registered, fun same => absurd same apart⟩
      refine Leads.keep ?_ fun _ => Act.pure_keeps _
      exact (closes apart).keep fun _ => (Act.hold_keeps _).keep fun _ => connects

end Connection

namespace World

def Closes (seat : Seat) : Happening σ → Prop
  | .act _ c operation => (operation = .close ∨ operation = .reset) ∧ c.seat = seat
  | .server _ => False

def Undisturbed (lib : Library σ) (seat : Seat) : List (Happening σ) → World (Recorded σ) → Prop
  | [], _ => True
  | first :: rest, w =>
    ¬ Cache.Stale lib.recorded seat w.cache w.lib ∧ ¬ Closes seat first ∧ Undisturbed lib seat rest (step lib w first)

variable {lib : Library σ} {seat : Seat} {handle : SftpId}

theorem step_stays (w : World (Recorded σ)) (happening : Happening σ) (sound : w.cache.Sound)
    (registered : w.cache.sftp.get? seat = some handle) (fresh : ¬ Cache.Stale lib.recorded seat w.cache w.lib)
    (spared : ¬ Closes seat happening) :
    (step lib w happening).cache.Sound ∧ (step lib w happening).cache.sftp.get? seat = some handle := by
  cases happening with
  | act i c operation =>
      have apart : operation = .close ∨ operation = .reset → c.seat ≠ seat := fun closes same => spared ⟨closes, same⟩
      exact Connection.operation_stays operation apart (w.scene i) ⟨⟨sound, registered⟩, fun _ => fresh⟩
  | server change => exact ⟨sound, registered⟩

theorem run_stays (happenings : List (Happening σ)) (w : World (Recorded σ)) (sound : w.cache.Sound)
    (registered : w.cache.sftp.get? seat = some handle) (undisturbed : Undisturbed lib seat happenings w) :
    (run lib happenings w).cache.sftp.get? seat = some handle := by
  induction happenings generalizing w with
  | nil => exact registered
  | cons first rest ih =>
      obtain ⟨fresh, spared, later⟩ := undisturbed
      obtain ⟨kept, stays⟩ := step_stays w first sound registered fresh spared
      exact ih (step lib w first) kept stays later

end World
end RemoteExec

import RemoteExec.Proofs.Session.Memory

namespace RemoteExec

variable {σ κ α β : Type}

namespace Registry

variable [DecidableEq κ] {key : κ}

def SameBut (key : κ) (before after : Registry κ α) : Prop :=
  ∀ other, other ≠ key → after.cell? other = before.cell? other ∧ after.get? other = before.get? other

theorem SameBut.refl (r : Registry κ α) : r.SameBut key r := fun _ _ => ⟨rfl, rfl⟩

theorem SameBut.trans {first second third : Registry κ α} (left : first.SameBut key second)
    (right : second.SameBut key third) : first.SameBut key third := by
  intro other apart
  obtain ⟨leftCell, leftValue⟩ := left other apart
  obtain ⟨rightCell, rightValue⟩ := right other apart
  exact ⟨rightCell.trans leftCell, rightValue.trans leftValue⟩

theorem erase_sameBut (r : Registry κ α) : r.SameBut key (r.erase key) := by
  intro other apart
  constructor
  · rw [cell_erase, if_neg apart]
  · rw [get_erase, if_neg apart]

end Registry

namespace Cache

variable {lib : Library σ} {seat : Seat} {cache : Cache} {l : σ}

theorem swept_sameBut (lib : Library σ) (seat : Seat) (cache : Cache) (l : σ) :
    cache.sessions.SameBut seat (cache.swept lib seat l).sessions ∧
      cache.sftp.SameBut seat (cache.swept lib seat l).sftp := by
  by_cases stale : Stale lib seat cache l
  · rw [swept_stale stale]
    exact ⟨cache.sessions.erase_sameBut, cache.sftp.erase_sameBut⟩
  · rw [swept_kept stale]
    exact ⟨Registry.SameBut.refl _, Registry.SameBut.refl _⟩

theorem giveUp_sameBut (sound : cache.Sound) : cache.sessions.SameBut seat (cache.giveUp seat).sessions := by
  intro other apart
  refine ⟨?_, giveUp_get sound other⟩
  have elsewhere : ¬ (other = seat ∧ (cache.sessions.enter seat).2.cell? seat = some (cache.sessions.enter seat).1 ∧
      (cache.sessions.enter seat).2.value? (cache.sessions.enter seat).1 = none) := fun here => apart here.1
  rw [giveUp, Registry.cell_abandon, if_neg elsewhere, Registry.cell_enter, if_neg apart]

-- The cell that was entered is vacant, so the entry that leads to it goes.
theorem giveUp_cell (sound : cache.Sound) (vacant : cache.sessions.get? seat = none) :
    (cache.giveUp seat).sessions.cell? seat = none := by
  have leads : (cache.sessions.enter seat).2.cell? seat = some (cache.sessions.enter seat).1 := by
    rw [Registry.cell_enter, if_pos rfl]
  have unfilled : (cache.sessions.enter seat).2.value? (cache.sessions.enter seat).1 = none := by
    rw [Registry.value_enter, sound.sessions.value_entered seat, vacant]
  rw [giveUp, Registry.cell_abandon, if_pos ⟨rfl, leads, unfilled⟩]

end Cache

namespace Connection

variable {lib : Library σ} {c : Connection} {e : Failure}

inductive Opens (lib : Library σ) (c : Connection) (o after : Outside (Recorded σ)) : Except Failure SessionId → Prop where
  | hindered (e : Failure) (hinders : c.asks lib o.files = .error e) (unasked : after.lib = o.lib) :
      Opens lib c o after (.error e)
  | refused (r : Request) (refusal : Failure) (asked : c.asks lib o.files = .ok r)
      (calls : after.lib.calls = o.lib.calls ++ [.dial r, .establish r (.error refusal)]) :
      Opens lib c o after (.error (connectFailure refusal))
  | given (r : Request) (session : SessionId) (asked : c.asks lib o.files = .ok r)
      (calls : after.lib.calls = o.lib.calls ++ [.dial r, .establish r (.ok session)]) : Opens lib c o after (.ok session)

theorem connectUncached_opens (lib : Library σ) (c : Connection) (o : Outside (Recorded σ)) :
    Opens lib c o (c.connectUncached lib.recorded o).2 (c.connectUncached lib.recorded o).1 := by
  obtain ⟨told, prepared⟩ := prepare_reads lib.recorded c o
  change c.prepare lib.recorded o = (c.asks lib o.files, o.tell told) at prepared
  cases asked : c.asks lib o.files with
  | error cause =>
      rw [asked] at prepared
      rw [connectUncached_unprepared prepared]
      exact .hindered cause asked rfl
  | ok r =>
      rw [asked] at prepared
      obtain ⟨more, contacted⟩ := connectUncached_prepared prepared
      obtain ⟨outcome, established, plain, noted⟩ := lib.recorded_establish r (lib.recorded.dial r (o.tell told)).2
      rw [contacted, noted]
      cases outcome with
      | error refusal => exact .refused r refusal asked (List.append_assoc o.lib.calls [.dial r] _)
      | ok session => exact .given r session asked (List.append_assoc o.lib.calls [.dial r] _)

structure Foiled (lib : Library σ) (c : Connection) (s t : Scene (Recorded σ)) (e : Failure) : Prop where
  dead : ¬ Cache.Live lib.recorded c.seat s.cache s.outside.lib
  held : t.held = { s.held with state := .disconnected }
  unregistered : t.cache.sessions.get? c.seat = none
  entryless : t.cache.sessions.cell? c.seat = none
  sessions : s.cache.sessions.SameBut c.seat t.cache.sessions
  handles : s.cache.sftp.SameBut c.seat t.cache.sftp
  removed_iff : ∀ handle, s.cache.sftp.get? c.seat = some handle →
    (t.cache.sftp.get? c.seat = none ↔ Cache.Stale lib.recorded c.seat s.cache s.outside.lib)
  spared : ¬ Cache.Stale lib.recorded c.seat s.cache s.outside.lib → t.cache.sftp = s.cache.sftp
  unasked : c.Hindered lib s.outside.files → t.outside.lib = s.outside.lib
  refused : ¬ c.Hindered lib s.outside.files → ∃ r refusal, c.asks lib s.outside.files = .ok r ∧
    e = connectFailure refusal ∧
    t.outside.lib.calls = s.outside.lib.calls ++ [.dial r, .establish r (.error refusal)]

theorem connect_foiled {lib : Library σ} {s t : Scene (Recorded σ)} (sound : s.cache.Sound)
    (ran : c.connect lib.recorded s = (.error e, t)) : Foiled lib c s t e := by
  obtain ⟨dead, cache, held, told, opened⟩ := connect_fails sound ran
  have swept : (s.cache.swept lib.recorded c.seat s.outside.lib).Sound := sound.swept
  have entryless : t.cache.sessions.cell? c.seat = none := by
    rw [cache]
    exact Cache.giveUp_cell swept (Cache.swept_vacant dead)
  have sftp : t.cache.sftp = (s.cache.swept lib.recorded c.seat s.outside.lib).sftp := by
    rw [cache]
    rfl
  have same := Cache.swept_sameBut lib.recorded c.seat s.cache s.outside.lib
  have opens := connectUncached_opens lib c (s.outside.tell told)
  rw [opened] at opens
  constructor
  · exact dead
  · exact held
  · rw [Registry.get?, entryless]
    rfl
  · exact entryless
  · rw [cache]
    exact same.1.trans (Cache.giveUp_sameBut swept)
  · rw [sftp]
    exact same.2
  · intro handle registered
    rw [sftp]
    by_cases stale : Cache.Stale lib.recorded c.seat s.cache s.outside.lib
    · rw [Cache.swept_stale stale]
      simp [Cache.without, Registry.get_erase, stale]
    · rw [Cache.swept_kept stale]
      simp [registered, stale]
  · intro kept
    rw [sftp, Cache.swept_kept kept]
  · intro hindered
    cases opens with
    | hindered e hinders unasked => exact unasked
    | refused r refusal asked calls =>
        obtain ⟨cause, hinders⟩ := asks_error_iff.mpr hindered
        cases asked.symm.trans hinders
  · intro free
    cases opens with
    | hindered e hinders unasked => exact absurd (asks_error_iff.mp ⟨e, hinders⟩) free
    | refused r refusal asked calls => exact ⟨r, refusal, asked, rfl, calls⟩

theorem connect_hindered {s : Scene σ} (sound : s.cache.Sound) (dead : ¬ Cache.Live lib c.seat s.cache s.outside.lib)
    (hinders : c.asks lib s.outside.files = .error e) : ∃ t, c.connect lib s = (.error e, t) := by
  obtain ⟨told, made⟩ := connect_dead sound dead
  obtain ⟨more, prepared⟩ := prepare_reads lib c (s.outside.tell told)
  change c.prepare lib (s.outside.tell told) = (c.asks lib s.outside.files, _) at prepared
  rw [hinders] at prepared
  rw [made, connectUncached_unprepared prepared]
  exact ⟨_, rfl⟩

end Connection

namespace World

open Connection

theorem failed_connect_undone (lib : Library σ) (w : World (Recorded σ)) (reached : Reached lib w) (i : Nat)
    (c : Connection) :
    (∀ e t, c.connect lib.recorded (w.scene i) = (.error e, t) → Foiled lib c (w.scene i) t e) ∧
    (c.Hindered lib w.files → ¬ Cache.Live lib.recorded c.seat w.cache w.lib →
      ∃ e t, c.connect lib.recorded (w.scene i) = (.error e, t)) := by
  have sound : w.cache.Sound := reached.consistent.sound
  constructor
  · intro e t ran
    exact connect_foiled (s := w.scene i) sound ran
  · intro hindered dead
    obtain ⟨e, hinders⟩ := asks_error_iff.mpr hindered
    exact ⟨e, connect_hindered (s := w.scene i) sound dead hinders⟩

def refusing : List (Happening Memory.State) := [.act 0 Memory.web .connectSftp,
  .server fun s => { Memory.dropSessions s with
    settings := { s.settings with connectFailure := some (.connection "refused") } }]

theorem refused_connect_undone :
    (∃ t r refusal, Memory.web.connect Memory.mock.recorded ((run Memory.mock refusing Memory.idle).scene 0) =
        (.error (.connection "ssh connection failed: refused"), t) ∧
      t.held = ⟨some 0, none, none, .disconnected⟩ ∧
      t.cache.sessions.get? Memory.web.seat = none ∧ t.cache.sftp.get? Memory.web.seat = none ∧
      t.outside.lib.calls = (run Memory.mock refusing Memory.idle).lib.calls ++
        [.dial r, .establish r (.error refusal)]) ∧
    ∃ e t, ({ Memory.web with hasLibrary := false }).connect Memory.mock.recorded
        ((run Memory.mock refusing Memory.idle).scene 0) = (.error e, t) ∧
      t.cache.sftp.get? Memory.web.seat = none ∧ t.outside.lib = (run Memory.mock refusing Memory.idle).lib := by
  have reached := Memory.run_reached refusing
  constructor
  · have foiled := (failed_connect_undone Memory.mock _ reached 0 Memory.web).1 _ _ rfl
    have free : ¬ Memory.web.Hindered Memory.mock (run Memory.mock refusing Memory.idle).files := by
      intro hindered
      obtain ⟨e, hinders⟩ := asks_error_iff.mpr hindered
      cases hinders
    obtain ⟨r, refusal, _, _, calls⟩ := foiled.refused free
    exact ⟨_, r, refusal, rfl, foiled.held, foiled.unregistered, (foiled.removed_iff 0 rfl).mpr ⟨0, rfl, rfl⟩, calls⟩
  · have hindered : Hindered Memory.mock { Memory.web with hasLibrary := false }
        (run Memory.mock refusing Memory.idle).files := .libraryMissing rfl
    have dead : ¬ Cache.Live Memory.mock.recorded Memory.web.seat (run Memory.mock refusing Memory.idle).cache
        (run Memory.mock refusing Memory.idle).lib := by
      rintro ⟨session, registered, isOpen⟩
      cases (show some 0 = some session from registered)
      cases isOpen
    obtain ⟨fails, hinders⟩ :=
      failed_connect_undone Memory.mock _ reached 0 { Memory.web with hasLibrary := false }
    obtain ⟨e, t, ran⟩ := hinders hindered dead
    have foiled := fails e t ran
    exact ⟨e, t, ran, (foiled.removed_iff 0 rfl).mpr ⟨0, rfl, rfl⟩, foiled.unasked hindered⟩

end World
end RemoteExec

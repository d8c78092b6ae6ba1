import RemoteExec.Proofs.Registry.Laws
import RemoteExec.Proofs.Session.Frames

namespace RemoteExec

variable {σ α : Type}

namespace Cache

structure Sound (cache : Cache) : Prop where
  sessions : cache.sessions.Sound
  sftp : cache.sftp.Sound

theorem empty_sound : Cache.empty.Sound := ⟨Registry.empty_sound, Registry.empty_sound⟩

def without (cache : Cache) (seat : Seat) : Cache := ⟨cache.sessions.erase seat, cache.sftp.erase seat⟩

theorem Sound.without {cache : Cache} (sound : cache.Sound) (seat : Seat) : (cache.without seat).Sound :=
  ⟨sound.sessions.erase seat, sound.sftp.erase seat⟩

def Stale (lib : Library σ) (seat : Seat) (cache : Cache) (l : σ) : Prop :=
  ∃ session, cache.sessions.get? seat = some session ∧ lib.isClosed l session = true

def Live (lib : Library σ) (seat : Seat) (cache : Cache) (l : σ) : Prop :=
  ∃ session, cache.sessions.get? seat = some session ∧ lib.isClosed l session = false

def swept (lib : Library σ) (seat : Seat) (cache : Cache) (l : σ) : Cache :=
  match cache.sessions.get? seat with
  | some session => if lib.isClosed l session then cache.without seat else cache
  | none => cache

variable {lib : Library σ} {seat : Seat} {cache : Cache} {l : σ}

theorem swept_stale (stale : Stale lib seat cache l) : cache.swept lib seat l = cache.without seat := by
  obtain ⟨session, registered, closed⟩ := stale
  simp [swept, registered, closed]

theorem swept_kept (kept : ¬ Stale lib seat cache l) : cache.swept lib seat l = cache := by
  cases registered : cache.sessions.get? seat with
  | none => simp [swept, registered]
  | some session =>
      have isOpen : lib.isClosed l session = false :=
        Bool.eq_false_iff.mpr fun closed => kept ⟨session, registered, closed⟩
      simp [swept, registered, isOpen]

theorem Sound.swept (sound : cache.Sound) : (cache.swept lib seat l).Sound := by
  by_cases stale : Stale lib seat cache l
  · rw [swept_stale stale]
    exact sound.without seat
  · rw [swept_kept stale]
    exact sound

theorem swept_vacant (dead : ¬ Live lib seat cache l) : (cache.swept lib seat l).sessions.get? seat = none := by
  cases registered : cache.sessions.get? seat with
  | none => simp [Cache.swept, registered]
  | some session =>
      have closed : lib.isClosed l session = true :=
        Bool.not_eq_false _ ▸ fun isOpen => dead ⟨session, registered, isOpen⟩
      rw [swept_stale ⟨session, registered, closed⟩]
      simp [without, Registry.get_erase]

def register (cache : Cache) (seat : Seat) (session : SessionId) : Cache :=
  { cache with sessions := (cache.sessions.enter seat).2.fill (cache.sessions.enter seat).1 session }

def giveUp (cache : Cache) (seat : Seat) : Cache :=
  { cache with sessions := (cache.sessions.enter seat).2.abandon seat (cache.sessions.enter seat).1 }

theorem Sound.register (sound : cache.Sound) (session : SessionId) : (cache.register seat session).Sound :=
  ⟨(sound.sessions.enter seat).fill _ session (sound.sessions.entered_used seat), sound.sftp⟩

theorem Sound.giveUp (sound : cache.Sound) : (cache.giveUp seat).Sound :=
  ⟨(sound.sessions.enter seat).abandon seat _, sound.sftp⟩

theorem register_get (session : SessionId) : (cache.register seat session).sessions.get? seat = some session :=
  Registry.get_fill _ seat _ session (by simp [Registry.cell_enter])

theorem register_elsewhere (sound : cache.Sound) (session : SessionId) {other : Seat} (apart : other ≠ seat) :
    (cache.register seat session).sessions.get? other = cache.sessions.get? other := by
  have away : (cache.sessions.enter seat).2.cell? other ≠ some (cache.sessions.enter seat).1 := fun leads =>
    apart ((sound.sessions.enter seat).apart other seat _ leads (by simp [Registry.cell_enter]))
  exact (Registry.get_fill_elsewhere _ other _ session away).trans (sound.sessions.get_enter seat other)

theorem giveUp_get (sound : cache.Sound) (other : Seat) :
    (cache.giveUp seat).sessions.get? other = cache.sessions.get? other :=
  (Registry.get_abandon _ seat other _).trans (sound.sessions.get_enter seat other)

theorem swept_elsewhere {other : Seat} (apart : other ≠ seat) :
    (cache.swept lib seat l).sessions.get? other = cache.sessions.get? other := by
  by_cases stale : Stale lib seat cache l
  · rw [swept_stale stale, without, Registry.get_erase, if_neg apart]
  · rw [swept_kept stale]

theorem Live.not_stale (live : Live lib seat cache l) : ¬ Stale lib seat cache l := by
  rintro ⟨session, registered, closed⟩
  obtain ⟨other, found, isOpen⟩ := live
  rw [registered] at found
  cases found
  rw [closed] at isOpen
  exact absurd isOpen (by decide)

end Cache

namespace Act

-- The registry is found in the cache and put back; what else the cache holds is the same.
theorem obtain_registered (registry : Cache → Registry Seat α) (update : Cache → Registry Seat α → Cache) (seat : Seat)
    (create : Act σ α) (s : Scene σ) (value : α) (registered : (registry s.cache).get? seat = some value)
    (same : update s.cache (registry s.cache) = s.cache) :
    obtain registry update seat create s = (.ok value, s) := by
  obtain ⟨cell, entry, filled⟩ := Option.bind_eq_some_iff.mp registered
  simp only [obtain, ExceptT.mk, Registry.enter_known _ seat cell entry, filled, same]

theorem obtain_vacant (registry : Cache → Registry Seat α) (update : Cache → Registry Seat α → Cache) (seat : Seat)
    (create : Act σ α) (s : Scene σ) (sound : (registry s.cache).Sound)
    (vacant : (registry s.cache).get? seat = none) :
    obtain registry update seat create s =
      match create { s with cache := update s.cache ((registry s.cache).enter seat).2 } with
      | (.ok value, t) => (.ok value, { t with
          cache := update t.cache ((registry t.cache).fill ((registry s.cache).enter seat).1 value) })
      | (.error e, t) => (.error e, { t with
          cache := update t.cache ((registry t.cache).abandon seat ((registry s.cache).enter seat).1) }) := by
  have unfilled : ((registry s.cache).enter seat).2.value? ((registry s.cache).enter seat).1 = none := by
    rw [Registry.value_enter, sound.value_entered seat, vacant]
  cases made : create { s with cache := update s.cache ((registry s.cache).enter seat).2 } with
  | mk outcome t =>
      cases outcome with
      | ok value => simp only [obtain, ExceptT.mk, unfilled, made]
      | error e => simp only [obtain, ExceptT.mk, unfilled, made]

end Act

namespace Connection

variable {lib : Library σ} {c : Connection} {s : Scene σ}

theorem approach_run (lib : Library σ) (c : Connection) (s : Scene σ) :
    ∃ told, c.approach lib s =
      (.ok (), ⟨s.outside.tell told, s.cache.swept lib c.seat s.outside.lib, { s.held with state := .connecting }⟩) := by
  by_cases stale : Cache.Stale lib c.seat s.cache s.outside.lib
  · rw [Cache.swept_stale stale]
    obtain ⟨session, registered, closed⟩ := stale
    refine ⟨[⟨.debug, "Evicting stale session " ++ c.identity.text ++ " from connection cache"⟩,
      ⟨.warn, "Cached session for " ++ c.identity.text ++ " is closed, reconnecting"⟩], ?_⟩
    simp [approach, evictClosed, evictSessionIf, Registry.removeIf, registered, closed, Except.map, Outside.tell,
      Registry.remove, Cache.without]
  · rw [Cache.swept_kept stale]
    refine ⟨[], ?_⟩
    cases registered : s.cache.sessions.get? c.seat with
    | none => simp [approach, evictClosed, evictSessionIf, Registry.removeIf, registered, Outside.tell]
    | some session =>
        have isOpen : lib.isClosed s.outside.lib session = false :=
          Bool.eq_false_iff.mpr fun closed => stale ⟨session, registered, closed⟩
        simp [approach, evictClosed, evictSessionIf, Registry.removeIf, registered, isOpen, Outside.tell]

theorem connect_live {session : SessionId} (registered : s.cache.sessions.get? c.seat = some session)
    (isOpen : lib.isClosed s.outside.lib session = false) :
    ∃ told, c.connect lib s = (.ok session, { s with
      outside := s.outside.tell told
      held := { s.held with session := some session, state := .connected } }) := by
  have live : Cache.Live lib c.seat s.cache s.outside.lib := ⟨session, registered, isOpen⟩
  obtain ⟨told, approached⟩ := approach_run lib c s
  rw [Cache.swept_kept live.not_stale] at approached
  refine ⟨told, ?_⟩
  have found := Act.obtain_registered Cache.sessions (fun cache r => { cache with sessions := r }) c.seat
    (Act.ofOp (c.connectUncached lib)) ⟨s.outside.tell told, s.cache, { s.held with state := .connecting }⟩ session
    registered rfl
  simp [connect, approached, Act.obtainSession, found, conclude, Except.map]

theorem connect_dead (sound : s.cache.Sound) (dead : ¬ Cache.Live lib c.seat s.cache s.outside.lib) :
    ∃ told, c.connect lib s =
      match c.connectUncached lib (s.outside.tell told) with
      | (.ok session, o) => (.ok session, ⟨o, (s.cache.swept lib c.seat s.outside.lib).register c.seat session,
          { s.held with session := some session, state := .connected }⟩)
      | (.error e, o) => (.error e, ⟨o, (s.cache.swept lib c.seat s.outside.lib).giveUp c.seat,
          { s.held with state := .disconnected }⟩) := by
  obtain ⟨told, approached⟩ := approach_run lib c s
  refine ⟨told, ?_⟩
  have made := Act.obtain_vacant Cache.sessions (fun cache r => { cache with sessions := r }) c.seat
    (Act.ofOp (c.connectUncached lib)) ⟨s.outside.tell told, s.cache.swept lib c.seat s.outside.lib,
      { s.held with state := .connecting }⟩ sound.swept.sessions (Cache.swept_vacant dead)
  simp only [connect, run_bind, approached, Act.obtainSession, Act.run_attempt, made, Act.run_ofOp]
  cases c.connectUncached lib (s.outside.tell told) with
  | mk outcome o =>
      cases outcome with
      | ok session => simp [conclude, Cache.register]
      | error e => simp [conclude, Cache.giveUp]

theorem connect_sftp (sound : s.cache.Sound) :
    (c.connect lib s).2.cache.sftp = (s.cache.swept lib c.seat s.outside.lib).sftp := by
  by_cases live : Cache.Live lib c.seat s.cache s.outside.lib
  · rw [Cache.swept_kept live.not_stale]
    obtain ⟨session, registered, isOpen⟩ := live
    obtain ⟨told, ran⟩ := connect_live registered isOpen
    rw [ran]
  · obtain ⟨told, ran⟩ := connect_dead sound live
    rw [ran]
    cases c.connectUncached lib (s.outside.tell told) with
    | mk outcome o =>
        cases outcome with
        | ok session => rfl
        | error e => rfl

theorem connect_sound (sound : s.cache.Sound) : (c.connect lib s).2.cache.Sound := by
  by_cases live : Cache.Live lib c.seat s.cache s.outside.lib
  · obtain ⟨session, registered, isOpen⟩ := live
    obtain ⟨told, ran⟩ := connect_live registered isOpen
    rw [ran]
    exact sound
  · obtain ⟨told, ran⟩ := connect_dead sound live
    rw [ran]
    cases c.connectUncached lib (s.outside.tell told) with
    | mk outcome o =>
        cases outcome with
        | ok session => exact sound.swept.register session
        | error e => exact sound.swept.giveUp

theorem connect_registers (sound : s.cache.Sound) {session : SessionId} {t : Scene σ}
    (ran : c.connect lib s = (.ok session, t)) :
    t.cache.sessions.get? c.seat = some session ∧ t.held.session = some session := by
  by_cases live : Cache.Live lib c.seat s.cache s.outside.lib
  · obtain ⟨known, registered, isOpen⟩ := live
    obtain ⟨told, found⟩ := connect_live registered isOpen
    rw [found] at ran
    cases ran
    exact ⟨registered, rfl⟩
  · obtain ⟨told, made⟩ := connect_dead sound live
    rw [made] at ran
    cases outcome : c.connectUncached lib (s.outside.tell told) with
    | mk result o =>
        rw [outcome] at ran
        cases result with
        | ok fresh =>
            cases ran
            exact ⟨Cache.register_get session, rfl⟩
        | error e => cases ran

theorem connect_fails (sound : s.cache.Sound) {e : Failure} {t : Scene σ} (ran : c.connect lib s = (.error e, t)) :
    ¬ Cache.Live lib c.seat s.cache s.outside.lib ∧
      t.cache = (s.cache.swept lib c.seat s.outside.lib).giveUp c.seat ∧
      t.held = { s.held with state := .disconnected } ∧
      ∃ told, c.connectUncached lib (s.outside.tell told) = (.error e, t.outside) := by
  by_cases live : Cache.Live lib c.seat s.cache s.outside.lib
  · obtain ⟨session, registered, isOpen⟩ := live
    obtain ⟨told, found⟩ := connect_live (c := c) registered isOpen
    cases found.symm.trans ran
  · obtain ⟨told, made⟩ := connect_dead sound live
    rw [made] at ran
    cases opened : c.connectUncached lib (s.outside.tell told) with
    | mk outcome o =>
        rw [opened] at ran
        cases outcome with
        | ok session => cases ran
        | error cause =>
            cases ran
            exact ⟨live, rfl, rfl, told, opened⟩

theorem connectUncached_unprepared {o t : Outside σ} {e : Failure} (ran : c.prepare lib o = (.error e, t)) :
    c.connectUncached lib o = (.error e, t) := by
  simp [connectUncached, begin, ran]

-- What a library does for a fresh session: the first contact and, if that is all, the rest.
theorem connectUncached_prepared {o t : Outside σ} {r : Request} (ran : c.prepare lib o = (.ok r, t)) :
    ∃ told, c.connectUncached lib o =
      match lib.establish r (lib.dial r t).2 with
      | (.ok session, u) => (.ok session, u.tell told)
      | (.error e, u) => (.error (connectFailure e), u.tell told) := by
  simp only [connectUncached, begin, run_bind, ran, run_lift, run_pure, complete, Op.run_attempt]
  cases lib.establish r (lib.dial r t).2 with
  | mk outcome u =>
      cases outcome with
      | ok session => exact ⟨_, rfl⟩
      | error e => exact ⟨_, rfl⟩

theorem connectUncached_asks {o after : Outside σ} {session : SessionId}
    (ran : c.connectUncached lib o = (.ok session, after)) :
    ∃ r prepared told established, c.prepare lib o = (.ok r, prepared) ∧
      lib.establish r (lib.dial r prepared).2 = (.ok session, established) ∧ after = established.tell told := by
  cases first : c.prepare lib o with
  | mk outcome prepared =>
      cases outcome with
      | error e =>
          rw [connectUncached_unprepared first] at ran
          cases ran
      | ok r =>
          obtain ⟨told, asks⟩ := connectUncached_prepared first
          rw [asks] at ran
          cases second : lib.establish r (lib.dial r prepared).2 with
          | mk opened established =>
              rw [second] at ran
              cases opened with
              | error e => cases ran
              | ok fresh =>
                  cases ran
                  exact ⟨r, prepared, told, established, rfl, second, rfl⟩

def OwnOpen (lib : Library σ) (s : Scene σ) : Prop :=
  ∃ own, s.held.session = some own ∧ lib.isClosed s.outside.lib own = false

theorem ensureConnected_own {own : SessionId} (holds : s.held.session = some own)
    (isOpen : lib.isClosed s.outside.lib own = false) : c.ensureConnected lib s = (.ok own, s) := by
  simp [ensureConnected, holds, isOpen]

theorem ensureConnected_connect (away : ¬ OwnOpen lib s) : c.ensureConnected lib s = c.connect lib s := by
  cases holds : s.held.session with
  | none => simp [ensureConnected, holds]
  | some own =>
      have closed : lib.isClosed s.outside.lib own = true :=
        Bool.not_eq_false _ ▸ fun isOpen => away ⟨own, holds, isOpen⟩
      simp [ensureConnected, holds, closed]

def Evicts (lib : Library σ) (c : Connection) (s : Scene σ) : Prop :=
  ¬ OwnOpen lib s ∧ Cache.Stale lib c.seat s.cache s.outside.lib

theorem ensureConnected_evicts (sound : s.cache.Sound) (evicts : Evicts lib c s) :
    (c.ensureConnected lib s).2.cache.sftp = s.cache.sftp.erase c.seat := by
  rw [ensureConnected_connect evicts.1, connect_sftp sound, Cache.swept_stale evicts.2]
  rfl

theorem ensureConnected_spares (sound : s.cache.Sound) (spares : ¬ Evicts lib c s) :
    (c.ensureConnected lib s).2.cache.sftp = s.cache.sftp := by
  by_cases own : OwnOpen lib s
  · obtain ⟨session, holds, isOpen⟩ := own
    rw [ensureConnected_own holds isOpen]
  · rw [ensureConnected_connect own, connect_sftp sound, Cache.swept_kept fun stale => spares ⟨own, stale⟩]

theorem connectSftp_registered {handle : SftpId} (registered : s.cache.sftp.get? c.seat = some handle) :
    c.connectSftp lib s = (.ok handle, s) :=
  Act.obtain_registered Cache.sftp (fun cache r => { cache with sftp := r }) c.seat _ s handle registered rfl

def entered (c : Connection) (s : Scene σ) : Scene σ :=
  { s with cache := { s.cache with sftp := (s.cache.sftp.enter c.seat).2 } }

theorem entered_sound (sound : s.cache.Sound) : (entered c s).cache.Sound :=
  ⟨sound.sessions, sound.sftp.enter c.seat⟩

-- Whether or not the entry was evicted meanwhile, its cell is not used for anything else.
theorem entered_cell_used (sound : s.cache.Sound) :
    (s.cache.sftp.enter c.seat).1 < (c.ensureConnected lib (entered c s)).2.cache.sftp.next := by
  have used := sound.sftp.entered_used c.seat
  by_cases evicts : Evicts lib c (entered c s)
  · rw [ensureConnected_evicts (entered_sound sound) evicts]
    exact used
  · rw [ensureConnected_spares (entered_sound sound) evicts]
    exact used

theorem entered_cell_vacant (sound : s.cache.Sound) (vacant : s.cache.sftp.get? c.seat = none) :
    (c.ensureConnected lib (entered c s)).2.cache.sftp.value? (s.cache.sftp.enter c.seat).1 = none := by
  have unfilled : (entered c s).cache.sftp.value? (s.cache.sftp.enter c.seat).1 = none := by
    rw [entered, Registry.value_enter, sound.sftp.value_entered c.seat, vacant]
  by_cases evicts : Evicts lib c (entered c s)
  · rw [ensureConnected_evicts (entered_sound sound) evicts, Registry.value_erase]
    exact unfilled
  · rw [ensureConnected_spares (entered_sound sound) evicts]
    exact unfilled

theorem connectSftp_vacant (sound : s.cache.Sound) (vacant : s.cache.sftp.get? c.seat = none) :
    c.connectSftp lib s =
      match c.ensureConnected lib (entered c s) with
      | (.error e, t) => (.error e, { t with
          cache := { t.cache with sftp := t.cache.sftp.abandon c.seat (s.cache.sftp.enter c.seat).1 } })
      | (.ok session, t) =>
        match lib.openSftp session t.outside with
        | (.error e, o) => (.error e, ⟨o,
            { t.cache with sftp := t.cache.sftp.abandon c.seat (s.cache.sftp.enter c.seat).1 }, t.held⟩)
        | (.ok handle, o) => (.ok handle, ⟨o,
            { t.cache with sftp := t.cache.sftp.fill (s.cache.sftp.enter c.seat).1 handle }, t.held⟩) := by
  have made := Act.obtain_vacant Cache.sftp (fun cache r => { cache with sftp := r }) c.seat
    (do let session ← c.ensureConnected lib; Act.ofOp (lib.openSftp session)) s sound.sftp vacant
  rw [connectSftp, Act.obtainSftp, made, run_bind]
  simp only [Act.run_ofOp]
  rw [← entered]
  cases c.ensureConnected lib (entered c s) with
  | mk outcome t =>
      cases outcome with
      | error e => rfl
      | ok session =>
          simp only
          cases lib.openSftp session t.outside with
          | mk opened o =>
              cases opened with
              | error e => rfl
              | ok handle => rfl

theorem connectSftp_made (sound : s.cache.Sound) (vacant : s.cache.sftp.get? c.seat = none) {handle : SftpId}
    {t : Scene σ} (ran : c.connectSftp lib s = (.ok handle, t)) :
    ∃ session between o, c.ensureConnected lib (entered c s) = (.ok session, between) ∧
      lib.openSftp session between.outside = (.ok handle, o) ∧
      t = ⟨o, { between.cache with sftp := between.cache.sftp.fill (s.cache.sftp.enter c.seat).1 handle },
        between.held⟩ := by
  rw [connectSftp_vacant sound vacant] at ran
  cases ensured : c.ensureConnected lib (entered c s) with
  | mk outcome between =>
      rw [ensured] at ran
      cases outcome with
      | error e => cases ran
      | ok session =>
          cases opened : lib.openSftp session between.outside with
          | mk result o =>
              simp only [opened] at ran
              cases result with
              | error e => cases ran
              | ok fresh =>
                  cases ran
                  exact ⟨session, between, o, rfl, opened, rfl⟩

end Connection
end RemoteExec

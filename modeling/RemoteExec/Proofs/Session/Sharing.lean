import RemoteExec.Proofs.Session.Memory

namespace RemoteExec

variable {σ : Type}

namespace Connection

variable {lib : Library σ} {c : Connection}

theorem connectUncached_establishes {o after : Outside (Recorded σ)} {session : SessionId}
    (ran : c.connectUncached lib.recorded o = (.ok session, after)) :
    ∃ r before established, lib.establish r before = (.ok session, established) ∧
      after.lib = ⟨established.lib, o.lib.calls ++ [.dial r, .establish r (.ok session)]⟩ := by
  obtain ⟨r, prepared, told, established, ready, asked, same⟩ := connectUncached_asks ran
  -- Before the first contact nothing is asked of the library.
  have unasked : prepared.lib = o.lib := by
    have kept : Outside.Has (· = o.lib) (c.prepare lib.recorded o).2 := prepare_keeps lib.recorded c o rfl
    rw [ready] at kept
    exact kept
  obtain ⟨outcome, opened, plain, noted⟩ := lib.recorded_establish r (lib.recorded.dial r prepared).2
  rw [asked] at noted
  cases noted
  refine ⟨r, _, opened, plain, ?_⟩
  rw [same]
  show (⟨opened.lib, (prepared.lib.calls ++ [.dial r]) ++ [.establish r (.ok session)]⟩ : Recorded σ) = _
  rw [unasked, List.append_assoc]
  rfl

theorem connectUncached_recorded (yields : lib.YieldsOpen) {o after : Outside (Recorded σ)} {session : SessionId}
    (ran : c.connectUncached lib.recorded o = (.ok session, after)) :
    lib.isClosed after.lib.state session = false ∧
      ∃ r, after.lib.calls = o.lib.calls ++ [.dial r, .establish r (.ok session)] := by
  obtain ⟨r, before, established, asked, same⟩ := connectUncached_establishes ran
  rw [same]
  exact ⟨yields r before session established asked, r, rfl⟩

structure Shares (lib : Library σ) (seat : Seat) (cache cache' : Cache) (l l' : Recorded σ) (session : SessionId) :
    Prop where
  isOpen : lib.isClosed l'.state session = false
  registered : cache'.sessions.get? seat = some session
  reused : Cache.Live lib.recorded seat cache l → cache.sessions.get? seat = some session ∧ l' = l
  opened : ¬ Cache.Live lib.recorded seat cache l → ∃ r, l'.calls = l.calls ++ [.dial r, .establish r (.ok session)]

theorem connect_shares (yields : lib.YieldsOpen) {s t : Scene (Recorded σ)} (sound : s.cache.Sound) {session : SessionId}
    (ran : c.connect lib.recorded s = (.ok session, t)) :
    Shares lib c.seat s.cache t.cache s.outside.lib t.outside.lib session := by
  have registers := (connect_registers sound ran).1
  by_cases live : Cache.Live lib.recorded c.seat s.cache s.outside.lib
  · obtain ⟨known, registered, isOpen⟩ := id live
    obtain ⟨told, found⟩ := connect_live registered isOpen
    rw [found] at ran
    cases ran
    exact ⟨isOpen, registers, fun _ => ⟨registered, rfl⟩, fun dead => absurd live dead⟩
  · obtain ⟨told, made⟩ := connect_dead sound live
    rw [made] at ran
    cases outcome : c.connectUncached lib.recorded (s.outside.tell told) with
    | mk result o =>
        rw [outcome] at ran
        cases result with
        | error e => cases ran
        | ok fresh =>
            cases ran
            obtain ⟨isOpen, asked⟩ := connectUncached_recorded yields outcome
            exact ⟨isOpen, registers, fun known => absurd known live, fun _ => asked⟩

theorem ensureConnected_yields (yields : lib.YieldsOpen) {s t : Scene (Recorded σ)} (sound : s.cache.Sound)
    {session : SessionId} (ran : c.ensureConnected lib.recorded s = (.ok session, t)) :
    lib.isClosed t.outside.lib.state session = false := by
  by_cases own : OwnOpen lib.recorded s
  · obtain ⟨held, holds, isOpen⟩ := own
    rw [ensureConnected_own holds isOpen] at ran
    cases ran
    exact isOpen
  · rw [ensureConnected_connect own] at ran
    exact (connect_shares yields sound ran).isOpen

theorem reset_connects {s t : Scene (Recorded σ)} (consistent : Scene.Has Consistent s) {session : SessionId}
    (ran : c.reset lib.recorded s = (.ok session, t)) :
    ∃ between, Scene.Has Consistent between ∧ c.connect lib.recorded between = (.ok session, t) := by
  have closed : Scene.Has Consistent (c.close lib.recorded s).2 :=
    close_leads (fun cache => (calls_consistent lib cache).closing) c evict_consistent s consistent
  simp only [reset, run_bind, Act.run_setState] at ran
  cases ended : c.close lib.recorded s with
  | mk outcome between =>
      rw [ended] at ran closed
      cases outcome with
      | error e => cases ran
      | ok done =>
          exact ⟨{ between with held := { between.held with state := .disconnected } }, closed, ran⟩

-- Over the empty cache a connect registers what it comes back with, so it is seen to look there.
theorem ensureConnected_own_iff {s : Scene σ} {own : SessionId} (holds : s.held.session = some own) :
    (∀ cache, c.ensureConnected lib { s with cache := cache } = (.ok own, { s with cache := cache })) ↔
      lib.isClosed s.outside.lib own = false := by
  refine ⟨fun untouched => ?_, fun isOpen cache => ensureConnected_own holds isOpen⟩
  cases closed : lib.isClosed s.outside.lib own with
  | false => rfl
  | true =>
      have away : ¬ OwnOpen lib { s with cache := Cache.empty } := by
        rintro ⟨session, held, isOpen⟩
        rw [holds] at held
        cases held
        rw [closed] at isOpen
        exact absurd isOpen (by decide)
      have connects := untouched Cache.empty
      rw [ensureConnected_connect away] at connects
      have registered := (connect_registers Cache.empty_sound connects).1
      exact absurd registered (by simp [Cache.empty, Registry.empty, Registry.get?, Registry.cell?])

end Connection

namespace World

open Connection

theorem connect_hands_out_registered (lib : Library σ) (yields : lib.YieldsOpen) (w : World (Recorded σ))
    (reached : Reached lib w) (i : Nat) (c : Connection) :
    (∀ session after, act i (c.connect lib.recorded) w = (.ok session, after) →
      Shares lib c.seat w.cache after.cache w.lib after.lib session) ∧
    (∀ session after, act i (c.reset lib.recorded) w = (.ok session, after) →
      lib.isClosed after.lib.state session = false ∧ after.cache.sessions.get? c.seat = some session) ∧
    (Cache.Live lib.recorded c.seat w.cache w.lib →
      ∃ session after, act i (c.connect lib.recorded) w = (.ok session, after)) ∧
    (∀ own, (w.scene i).held.session = some own →
      ((∀ cache, c.ensureConnected lib.recorded { w.scene i with cache := cache } =
        (.ok own, { w.scene i with cache := cache })) ↔ lib.isClosed w.lib.state own = false)) ∧
    (¬ OwnOpen lib.recorded (w.scene i) →
      act i (c.ensureConnected lib.recorded) w = act i (c.connect lib.recorded) w) := by
  have consistent := reached.consistent
  refine ⟨?_, ?_, ?_, ?_, ?_⟩
  · intro session after ran
    cases result : c.connect lib.recorded (w.scene i) with
    | mk outcome t =>
        rw [act, result] at ran
        cases ran
        exact connect_shares yields (s := w.scene i) consistent.sound result
  · intro session after ran
    cases result : c.reset lib.recorded (w.scene i) with
    | mk outcome t =>
        rw [act, result] at ran
        cases ran
        obtain ⟨between, kept, connected⟩ := reset_connects (s := w.scene i) consistent result
        have shares := connect_shares yields kept.sound connected
        exact ⟨shares.isOpen, shares.registered⟩
  · rintro ⟨session, registered, isOpen⟩
    obtain ⟨told, found⟩ := connect_live (c := c) (s := w.scene i) registered isOpen
    exact ⟨session, _, by rw [act, found]⟩
  · intro own holds
    exact ensureConnected_own_iff holds
  · intro away
    rw [act, act, ensureConnected_connect away]

def dropped : List (Happening Memory.State) := [.act 0 Memory.web .connect, .server Memory.dropSessions]

theorem connect_after_drop :
    (∃ after, act 0 (Memory.web.connect Memory.mock.recorded) (run Memory.mock dropped Memory.idle) = (.ok 1, after) ∧
      Memory.mock.isClosed after.lib.state 1 = false ∧ after.cache.sessions.get? Memory.web.seat = some 1 ∧
      ∃ r, after.lib.calls =
        (run Memory.mock dropped Memory.idle).lib.calls ++ [.dial r, .establish r (.ok 1)]) ∧
    (∃ after, act 1 (Memory.web.connect Memory.mock.recorded)
        (run Memory.mock (dropped ++ [.act 0 Memory.web .connect]) Memory.idle) = (.ok 1, after) ∧
      after.lib = (run Memory.mock (dropped ++ [.act 0 Memory.web .connect]) Memory.idle).lib) := by
  have yields : Memory.mock.YieldsOpen := Memory.library_yields_open "mock" ⟨1, 0, 0⟩
  have first := (connect_hands_out_registered Memory.mock yields _ (Memory.run_reached dropped) 0 Memory.web).1 1 _ rfl
  have second := (connect_hands_out_registered Memory.mock yields _
    (Memory.run_reached (dropped ++ [.act 0 Memory.web .connect])) 1 Memory.web).1 1 _ rfl
  refine ⟨⟨_, rfl, first.isOpen, first.registered, first.opened ?_⟩, ⟨_, rfl, (second.reused ?_).2⟩⟩
  · rintro ⟨session, registered, isOpen⟩
    cases (show some 0 = some session from registered)
    exact absurd isOpen (by decide)
  · exact ⟨1, rfl, rfl⟩

end World
end RemoteExec

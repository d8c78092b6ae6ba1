import RemoteExec.Proofs.Session.Sharing

namespace RemoteExec

variable {σ : Type}

inductive Thing where
  | sftp (handle : SftpId)
  | channel (id : ChannelId)
  | session (id : SessionId)
deriving DecidableEq

def Thing.close (lib : Library σ) : Thing → Op σ Unit
  | .sftp handle => lib.closeSftp handle
  | .channel id => lib.closeChannel id
  | .session id => lib.closeSession id

def Held.things (h : Held) : List Thing :=
  (h.sftp.map Thing.sftp).toList ++ ((h.channel.map Thing.channel).toList ++ (h.session.map Thing.session).toList)

abbrev Attempt := Thing × Except Failure Unit

inductive Closings (lib : Library σ) : Outside σ → List Attempt → Outside σ → Prop where
  | done (o : Outside σ) : Closings lib o [] o
  | told {o after : Outside σ} {tried : List Attempt} (events : List Event)
      (later : Closings lib (o.tell events) tried after) : Closings lib o tried after
  | closed {o between after : Outside σ} {tried : List Attempt} {outcome : Except Failure Unit} (thing : Thing)
      (ran : thing.close lib o = (outcome, between)) (later : Closings lib between tried after) :
      Closings lib o ((thing, outcome) :: tried) after

namespace Closings

variable {lib : Library σ} {o between after : Outside σ} {tried later : List Attempt}

theorem trans (first : Closings lib o tried between) (second : Closings lib between later after) :
    Closings lib o (tried ++ later) after := by
  induction first with
  | done o => exact second
  | told events rest ih => exact .told events (ih second)
  | closed thing ran rest ih => exact .closed thing ran (ih second)

end Closings

-- What the record shows of an attempt: of closing only the channels are noted.
def Attempt.noted? : Attempt → Option Call
  | (.channel channel, outcome) => some (.closeChannel channel outcome)
  | _ => none

theorem attempt_calls {lib : Library σ} {o between : Outside (Recorded σ)} {outcome : Except Failure Unit}
    (thing : Thing) (ran : thing.close lib.recorded o = (outcome, between)) :
    between.lib.calls = o.lib.calls ++ (Attempt.noted? (thing, outcome)).toList := by
  cases thing with
  | sftp handle =>
      cases ran
      rfl
  | channel id =>
      cases ran
      rfl
  | session id =>
      cases ran
      rfl

theorem Closings.calls {lib : Library σ} {o after : Outside (Recorded σ)} {tried : List Attempt}
    (asked : Closings lib.recorded o tried after) :
    after.lib.calls = o.lib.calls ++ tried.filterMap Attempt.noted? := by
  induction asked with
  | done o => simp
  | told events rest ih => exact ih
  | closed thing ran rest ih =>
      rw [ih, attempt_calls thing ran, List.append_assoc, List.filterMap_cons]
      cases Attempt.noted? (thing, _) with
      | none => rfl
      | some call => rfl

namespace Held

theorem things_short (h : Held) : h.things.length ≤ 3 := by
  have slot : ∀ {α : Type} (o : Option α), o.toList.length ≤ 1 := by
    intro α o
    cases o with
    | none => simp
    | some x => simp
  have sftp := slot (h.sftp.map Thing.sftp)
  have channel := slot (h.channel.map Thing.channel)
  have session := slot (h.session.map Thing.session)
  simp only [things, List.length_append]
  omega

theorem things_nodup (h : Held) : h.things.Nodup := by
  cases h with
  | mk session channel sftp state =>
      cases sftp <;> cases channel <;> cases session <;> simp [things]

theorem session_mem (h : Held) (session : SessionId) : .session session ∈ h.things ↔ h.session = some session := by
  cases h with
  | mk own channel sftp state =>
      cases sftp <;> cases channel <;> cases own <;> simp [things, eq_comm]

theorem channel_mem (h : Held) (channel : ChannelId) : .channel channel ∈ h.things ↔ h.channel = some channel := by
  cases h with
  | mk session own sftp state =>
      cases sftp <;> cases own <;> cases session <;> simp [things, eq_comm]

end Held

inductive Ended (state : ConnectionState) : List Attempt → Except Failure Unit → Held → Prop where
  | closed {tried : List Attempt} (well : ∀ attempt ∈ tried, attempt.2 = .ok ()) :
      Ended state tried (.ok ()) ⟨none, none, none, .closed⟩
  | failed {done : List Attempt} {thing : Thing} {e : Failure} {left : Held}
      (well : ∀ attempt ∈ done, attempt.2 = .ok ()) (kept : left.state = state) :
      Ended state (done ++ [(thing, .error e)]) (.error e) left

theorem Ended.cons {state : ConnectionState} {tried : List Attempt} {outcome : Except Failure Unit} {left : Held}
    (thing : Thing) (ended : Ended state tried outcome left) : Ended state ((thing, .ok ()) :: tried) outcome left := by
  cases ended with
  | closed well => exact .closed (by simpa using well)
  | failed well kept =>
      rw [← List.cons_append]
      exact .failed (by simpa using well) kept

theorem Ended.emptied {state : ConnectionState} {tried : List Attempt} {done : Unit} {left : Held}
    (ended : Ended state tried (.ok done) left) : left = ⟨none, none, none, .closed⟩ := by
  cases ended with
  | closed well => rfl

theorem Ended.well {state : ConnectionState} {tried : List Attempt} {done : Unit} {left : Held}
    (ended : Ended state tried (.ok done) left) : ∀ attempt ∈ tried, attempt.2 = .ok () := by
  cases ended with
  | closed well => exact well

theorem Ended.stopped {state : ConnectionState} {tried : List Attempt} {e : Failure} {left : Held}
    (ended : Ended state tried (.error e) left) :
    ∃ done thing, tried = done ++ [(thing, .error e)] ∧ left.state = state := by
  cases ended with
  | failed well kept => exact ⟨_, _, rfl, kept⟩

structure Closes (lib : Library σ) (s : Scene σ) (tried : List Attempt) (outcome : Except Failure Unit) (t : Scene σ) :
    Prop where
  asked : Closings lib s.outside tried t.outside
  cache : t.cache = s.cache
  left : s.held.things = tried.map Prod.fst ++ t.held.things
  ended : Ended s.held.state tried outcome t.held

namespace Connection

variable {lib : Library σ} {c : Connection}

theorem release_run (take : Held → Option Nat × Held) (close : Nat → Op σ Unit) (s : Scene σ) :
    release take close s =
      match (take s.held).1 with
      | some id => ((close id s.outside).1, ⟨(close id s.outside).2, s.cache, (take s.held).2⟩)
      | none => (.ok (), { s with held := (take s.held).2 }) := by
  simp only [release, Act.held, run_bind, run_get, run_pure, Act.run_hold]
  cases (take s.held).1 with
  | some id => rfl
  | none => rfl

theorem release_closes {take : Held → Option Nat × Held} {close : Nat → Op σ Unit} {rest : Act σ Unit} {s : Scene σ}
    (thing : Nat → Thing) (closes : ∀ id, (thing id).close lib = close id)
    (things : s.held.things = ((take s.held).1.map thing).toList ++ (take s.held).2.things)
    (state : (take s.held).2.state = s.held.state)
    (later : ∀ o, ∃ tried outcome t, rest ⟨o, s.cache, (take s.held).2⟩ = (outcome, t) ∧
      Closes lib ⟨o, s.cache, (take s.held).2⟩ tried outcome t) :
    ∃ tried outcome t, (release take close >>= fun _ => rest) s = (outcome, t) ∧ Closes lib s tried outcome t := by
  cases held : (take s.held).1 with
  | none =>
      rw [held] at things
      obtain ⟨tried, outcome, t, ran, came⟩ := later s.outside
      refine ⟨tried, outcome, t, ?_, came.asked, came.cache, things.trans came.left, ?_⟩
      · simp only [run_bind, release_run, held]
        exact ran
      · rw [← state]
        exact came.ended
  | some id =>
      rw [held] at things
      cases asked : close id s.outside with
      | mk first o =>
          have tries : (thing id).close lib s.outside = (first, o) := by rw [closes, asked]
          cases first with
          | error e =>
              refine ⟨[(thing id, .error e)], .error e, ⟨o, s.cache, (take s.held).2⟩, ?_,
                .closed (thing id) tries (.done o), rfl, things, ?_⟩
              · simp only [run_bind, release_run, held, asked]
              · exact .failed (by simp : ∀ attempt ∈ ([] : List Attempt), attempt.2 = .ok ()) state
          | ok done =>
              obtain ⟨tried, outcome, t, ran, came⟩ := later o
              refine ⟨(thing id, .ok ()) :: tried, outcome, t, ?_, .closed (thing id) tries came.asked, came.cache, ?_, ?_⟩
              · simp only [run_bind, release_run, held, asked]
                exact ran
              · rw [things]
                simpa using came.left
              · rw [← state]
                exact came.ended.cons (thing id)

theorem evict_run (c : Connection) (s : Scene σ) :
    ∃ told, c.evict s = (.ok (), { s with outside := s.outside.tell told, cache := s.cache.without c.seat }) :=
  ⟨_, rfl⟩

theorem close_closes (lib : Library σ) (c : Connection) (s : Scene σ) :
    ∃ tried outcome t, c.close lib s = (outcome, t) ∧
      Closes lib { s with cache := s.cache.without c.seat } tried outcome t := by
  obtain ⟨told, evicted⟩ := evict_run c s
  have closing : ∃ tried outcome t, c.close lib s = (outcome, t) ∧
      Closes lib ⟨s.outside.tell told, s.cache.without c.seat, s.held⟩ tried outcome t := by
    simp only [close, run_bind (a := c.evict), evicted]
    refine release_closes Thing.sftp (fun _ => rfl) rfl rfl fun o => ?_
    refine release_closes Thing.channel (fun _ => rfl) rfl rfl fun o => ?_
    refine release_closes Thing.session (fun _ => rfl) (by simp [Held.things]) rfl fun o => ?_
    exact ⟨[], .ok (), _, rfl, .told _ (.done _), rfl, rfl, .closed (by simp)⟩
  obtain ⟨tried, outcome, t, ran, came⟩ := closing
  exact ⟨tried, outcome, t, ran, .told told came.asked, came.cache, came.left, came.ended⟩

theorem close_came {s t : Scene σ} {outcome : Except Failure Unit} (ran : c.close lib s = (outcome, t)) :
    ∃ tried, Closes lib { s with cache := s.cache.without c.seat } tried outcome t := by
  obtain ⟨tried, result, after, closed, came⟩ := close_closes lib c s
  rw [ran] at closed
  cases closed
  exact ⟨tried, came⟩

theorem close_cache {s t : Scene σ} {outcome : Except Failure Unit} (ran : c.close lib s = (outcome, t)) :
    t.cache = s.cache.without c.seat := by
  obtain ⟨tried, came⟩ := close_came ran
  exact came.cache

theorem close_over {s t : Scene σ} {done : Unit} (ran : c.close lib s = (.ok done, t)) :
    t.held = ⟨none, none, none, .closed⟩ := by
  obtain ⟨tried, came⟩ := close_came ran
  exact came.ended.emptied

theorem close_held (lib : Library σ) (c : Connection) (s : Scene σ) :
    (∃ t, c.close lib s = (.ok (), t) ∧ t.held = ⟨none, none, none, .closed⟩) ∨
      (∃ e t, c.close lib s = (.error e, t) ∧ t.held.state = s.held.state ∧ s.held.things ≠ [] ∧
        (∀ thing ∈ t.held.things, thing ∈ s.held.things)) := by
  obtain ⟨tried, outcome, t, ran, came⟩ := close_closes lib c s
  have left : s.held.things = tried.map Prod.fst ++ t.held.things := came.left
  cases outcome with
  | ok done => exact Or.inl ⟨t, ran, came.ended.emptied⟩
  | error e =>
      obtain ⟨done, thing, stopped, kept⟩ := came.ended.stopped
      refine Or.inr ⟨e, t, ran, kept, ?_, ?_⟩
      · simp [left, stopped]
      · intro other member
        rw [left]
        exact List.mem_append_right _ member

theorem close_nothing {s : Scene σ} (empty : s.held.things = []) :
    ∃ t, c.close lib s = (.ok (), t) ∧ t.held = ⟨none, none, none, .closed⟩ := by
  obtain ⟨tried, outcome, t, ran, came⟩ := close_closes lib c s
  have untried : tried = [] := by
    have left : [] = tried.map Prod.fst ++ t.held.things := empty.symm.trans came.left
    simpa using (List.append_eq_nil_iff.mp left.symm).1
  cases outcome with
  | ok done => exact ⟨t, ran, came.ended.emptied⟩
  | error e =>
      obtain ⟨before, thing, some_tried, _⟩ := came.ended.stopped
      exact absurd (untried.symm.trans some_tried) (by simp)

def closedAgain (lib : Library σ) (c : Connection) : Nat → Scene σ → Scene σ
  | 0, s => s
  | n + 1, s => closedAgain lib c n (c.close lib s).2

theorem closedAgain_closes (lib : Library σ) (c : Connection) (n : Nat) (s : Scene σ) :
    ∃ tried, Closings lib s.outside tried (closedAgain lib c n s).outside ∧
      s.held.things = tried.map Prod.fst ++ (closedAgain lib c n s).held.things := by
  induction n generalizing s with
  | zero => exact ⟨[], .done _, rfl⟩
  | succ n ih =>
      obtain ⟨tried, outcome, t, ran, came⟩ := close_closes lib c s
      obtain ⟨more, asked, left⟩ := ih t
      simp only [closedAgain, ran]
      refine ⟨tried ++ more, came.asked.trans asked, ?_⟩
      rw [List.map_append, List.append_assoc, ← left]
      exact came.left

-- Each failure lets go of one thing at least, so there are no more failures than things.
theorem closedAgain_settles (lib : Library σ) (c : Connection) (s : Scene σ) :
    ∃ failing, failing ≤ s.held.things.length ∧ ∀ n,
      (n < failing → ∃ e t, c.close lib (closedAgain lib c n s) = (.error e, t)) ∧
      (failing ≤ n → ∃ t, c.close lib (closedAgain lib c n s) = (.ok (), t) ∧ t.held = ⟨none, none, none, .closed⟩) := by
  induction size : s.held.things.length using Nat.strongRecOn generalizing s with
  | ind count shorter =>
      obtain ⟨tried, outcome, t, ran, came⟩ := close_closes lib c s
      have left : s.held.things = tried.map Prod.fst ++ t.held.things := came.left
      cases outcome with
      | ok done =>
          have emptied := came.ended.emptied
          refine ⟨0, Nat.zero_le _, fun n => ⟨fun before => absurd before (Nat.not_lt_zero n), fun _ => ?_⟩⟩
          cases n with
          | zero => exact ⟨t, ran, emptied⟩
          | succ n =>
              obtain ⟨none, _, rest⟩ := closedAgain_closes lib c n t
              have empty : (closedAgain lib c n t).held.things = [] :=
                (List.append_eq_nil_iff.mp (rest.symm.trans (by rw [emptied]; rfl))).2
              simp only [closedAgain, ran]
              exact close_nothing empty
      | error e =>
          have fewer : t.held.things.length < count := by
            obtain ⟨before, thing, some_tried, _⟩ := came.ended.stopped
            rw [left, some_tried] at size
            simp only [List.length_append, List.length_map, List.length_cons, List.length_nil] at size
            omega
          obtain ⟨failing, bound, settles⟩ := shorter _ fewer t rfl
          refine ⟨failing + 1, by omega, fun n => ?_⟩
          cases n with
          | zero => exact ⟨fun _ => ⟨e, t, ran⟩, fun after => absurd after (by omega)⟩
          | succ n =>
              simp only [closedAgain, ran]
              exact ⟨fun before => (settles n).1 (by omega), fun after => (settles n).2 (by omega)⟩

theorem reset_cases (lib : Library σ) (c : Connection) (s : Scene σ) :
    (∃ e t, c.close lib s = (.error e, t) ∧ c.reset lib s = (.error e, t)) ∨
      ∃ t, c.close lib s = (.ok (), t) ∧
        c.reset lib s = c.connect lib { t with held := { t.held with state := .disconnected } } := by
  cases closed : c.close lib s with
  | mk outcome t =>
      cases outcome with
      | error e => exact Or.inl ⟨e, t, rfl, by simp [reset, closed]⟩
      | ok done => exact Or.inr ⟨t, rfl, by simp [reset, closed]⟩

theorem reset_failed {s t : Scene σ} {e : Failure} (ran : c.close lib s = (.error e, t)) :
    c.reset lib s = (.error e, t) := by
  simp [reset, ran]

theorem reset_opens {s t : Scene (Recorded σ)} (sound : s.cache.Sound) {session : SessionId}
    (ran : c.reset lib.recorded s = (.ok session, t)) :
    ∃ between r, c.close lib.recorded s = (.ok (), between) ∧
      t.outside.lib.calls = between.outside.lib.calls ++ [.dial r, .establish r (.ok session)] ∧
      t.cache.sessions.get? c.seat = some session ∧ t.held = ⟨some session, none, none, .connected⟩ := by
  rcases reset_cases lib.recorded c s with ⟨e, between, _, failed⟩ | ⟨between, closed, same⟩
  · rw [failed] at ran
    cases ran
  · have cache := close_cache closed
    have kept : between.cache.Sound := cache ▸ sound.without c.seat
    have dead : ¬ Cache.Live lib.recorded c.seat between.cache between.outside.lib := by
      rintro ⟨other, registered, _⟩
      rw [cache, Cache.without, Registry.get_erase, if_pos rfl] at registered
      cases registered
    rw [same, close_over closed] at ran
    obtain ⟨told, made⟩ := connect_dead (s := ⟨between.outside, between.cache, ⟨none, none, none, .disconnected⟩⟩) kept dead
    rw [made] at ran
    cases opened : c.connectUncached lib.recorded (between.outside.tell told) with
    | mk result o =>
        rw [opened] at ran
        cases result with
        | error e => cases ran
        | ok fresh =>
            cases ran
            obtain ⟨r, before, established, asked, recorded⟩ := connectUncached_establishes opened
            refine ⟨between, r, closed, ?_, Cache.register_get session, rfl⟩
            rw [recorded]
            rfl

end Connection

namespace World

open Connection

theorem close_stops_at_failure (lib : Library σ) (w : World (Recorded σ)) (reached : Reached lib w) (i : Nat)
    (c : Connection) :
    -- One close: the things tried come first in the order of closing, those left come after them.
    (∃ tried outcome t, c.close lib.recorded (w.scene i) = (outcome, t) ∧
      t.cache.sessions.get? c.seat = none ∧ t.cache.sftp.get? c.seat = none ∧
      Closings lib.recorded (w.scene i).outside tried t.outside ∧
      (w.scene i).held.things = tried.map Prod.fst ++ t.held.things ∧
      Ended (w.scene i).held.state tried outcome t.held) ∧
    -- Any number of closes: each thing is tried at most once, and at most three of the closes fail.
    ((w.scene i).held.things.Nodup ∧ ∀ n, ∃ tried,
      Closings lib.recorded (w.scene i).outside tried (closedAgain lib.recorded c n (w.scene i)).outside ∧
      (w.scene i).held.things = tried.map Prod.fst ++ (closedAgain lib.recorded c n (w.scene i)).held.things) ∧
    (∃ failing, failing ≤ 3 ∧ ∀ n,
      (n < failing → ∃ e t, c.close lib.recorded (closedAgain lib.recorded c n (w.scene i)) = (.error e, t)) ∧
      (failing ≤ n → ∃ t, c.close lib.recorded (closedAgain lib.recorded c n (w.scene i)) = (.ok (), t) ∧
        t.held = ⟨none, none, none, .closed⟩)) ∧
    -- A reset whose close fails is that close, and opens nothing; one that succeeds ends with a session opened after it.
    (∀ e t, c.close lib.recorded (w.scene i) = (.error e, t) → c.reset lib.recorded (w.scene i) = (.error e, t) ∧
      ∃ tried : List Attempt, t.outside.lib.calls = w.lib.calls ++ tried.filterMap Attempt.noted?) ∧
    (∀ session t, c.reset lib.recorded (w.scene i) = (.ok session, t) →
      ∃ between r, c.close lib.recorded (w.scene i) = (.ok (), between) ∧
        t.outside.lib.calls = between.outside.lib.calls ++ [.dial r, .establish r (.ok session)] ∧
        t.cache.sessions.get? c.seat = some session ∧ t.held = ⟨some session, none, none, .connected⟩) := by
  have sound : w.cache.Sound := reached.consistent.sound
  refine ⟨?_, ⟨Held.things_nodup _, fun n => closedAgain_closes lib.recorded c n (w.scene i)⟩, ?_, ?_, ?_⟩
  · obtain ⟨tried, outcome, t, ran, came⟩ := close_closes lib.recorded c (w.scene i)
    have cache : t.cache = w.cache.without c.seat := came.cache
    refine ⟨tried, outcome, t, ran, ?_, ?_, came.asked, came.left, came.ended⟩
    · rw [cache, Cache.without, Registry.get_erase, if_pos rfl]
    · rw [cache, Cache.without, Registry.get_erase, if_pos rfl]
  · obtain ⟨failing, bound, settles⟩ := closedAgain_settles lib.recorded c (w.scene i)
    exact ⟨failing, Nat.le_trans bound (Held.things_short _), settles⟩
  · intro e t ran
    obtain ⟨tried, came⟩ := close_came ran
    exact ⟨reset_failed ran, tried, came.asked.calls⟩
  · intro session t ran
    exact reset_opens (s := w.scene i) sound ran

def worked : List (Happening Memory.State) := [.act 0 Memory.web (.exec "true" none false),
  .act 0 Memory.web (.fetchFile "from" "to" .sftp),
  .server fun s => { s with settings := { s.settings with channelCloseFailure := some (.connection "gone") } }]

theorem close_stops_at_channel :
    (∃ t, Memory.web.close Memory.mock.recorded ((run Memory.mock worked Memory.idle).scene 0) =
        (.error (.connection "gone"), t) ∧
      t.held.things = [.session 0] ∧
      Memory.web.reset Memory.mock.recorded ((run Memory.mock worked Memory.idle).scene 0) =
        (.error (.connection "gone"), t)) ∧
    (∃ t, Memory.web.reset Memory.mock.recorded ((run Memory.mock (worked.take 2) Memory.idle).scene 0) = (.ok 1, t) ∧
      t.cache.sessions.get? Memory.web.seat = some 1 ∧ t.held = ⟨some 1, none, none, .connected⟩) := by
  obtain ⟨_, _, _, failed, _⟩ := close_stops_at_failure Memory.mock _ (Memory.run_reached worked) 0 Memory.web
  obtain ⟨_, _, _, _, reopened⟩ :=
    close_stops_at_failure Memory.mock _ (Memory.run_reached (worked.take 2)) 0 Memory.web
  obtain ⟨_, _, _, _, registered, held⟩ := reopened 1 _ rfl
  exact ⟨⟨_, rfl, rfl, (failed _ _ rfl).1⟩, ⟨_, rfl, registered, held⟩⟩

end World
end RemoteExec

import RemoteExec.Proofs.Session.Closing
import RemoteExec.Proofs.Session.Holding
/-!
Who answers for an open session. As long as some connection holds it or it is registered, somebody can still
close it. A session gets lost when its last holder lets go of it while it is open: by connecting again and being
given another one, which happens once somebody else took it out of the registry, or by a close that fails.
-/
namespace RemoteExec

variable {σ α : Type}

structure InUse (lib : Library σ) (l : Recorded σ) (session : SessionId) : Prop where
  opened : ∃ r, .establish r (.ok session) ∈ l.calls
  isOpen : lib.isClosed l.state session = false

def Call.opens (session : SessionId) (call : Call) : Prop := ∃ r, call = .establish r (.ok session)

variable {lib : Library σ} {session : SessionId}

theorem noted_unused {β : Type} {note : β → List Call} {op : StateM (Outside σ) β} {o : Outside (Recorded σ)}
    (keeps : lib.isClosed o.lib.state session = true → lib.isClosed (op (Recorded.plain o)).2.lib session = true)
    (unopened : ∀ call ∈ note (op (Recorded.plain o)).1, ¬ call.opens session) (unused : ¬ InUse lib o.lib session) :
    ¬ InUse lib (Recorded.noting note op o).2.lib session := by
  intro used
  have isOpen : lib.isClosed o.lib.state session = false :=
    Bool.eq_false_iff.mpr fun closed => absurd (used.isOpen.symm.trans (keeps closed)) (by decide)
  obtain ⟨r, listed⟩ := used.opened
  rcases List.mem_append.mp listed with older | newer
  · exact unused ⟨⟨r, older⟩, isOpen⟩
  · exact unopened _ newer ⟨r, rfl⟩

theorem noting_unused {ε : Type} {note : Except ε α → List Call} {op : ExceptT ε (StateM (Outside σ)) α}
    (keeps : Op.Keeps (fun l => lib.isClosed l session = true) op)
    (unopened : ∀ outcome, ∀ call ∈ note outcome, ¬ call.opens session := by simp [Call.opens]) :
    Op.Keeps (ε := ε) (α := α) (fun l => ¬ InUse lib l session) (Recorded.noting note op) :=
  fun o => noted_unused (keeps (Recorded.plain o)) (unopened _)

theorem Library.ClosesForGood.unused (laws : lib.ClosesForGood) (session : SessionId) :
    lib.recorded.unasked.Keeps fun l => ¬ InUse lib l session where
  dial := fun _ _ unused => unused
  establish := fun _ _ unused => unused
  newChannel := fun id => noting_unused ((laws.stays session).newChannel id)
  openSftp := fun id => noting_unused ((laws.stays session).openSftp id)
  openScp := fun id => noting_unused ((laws.stays session).openScp id)
  closeSession := fun id => noting_unused ((laws.stays session).closeSession id)
  requestPty := fun id => noting_unused ((laws.stays session).requestPty id)
  start := fun id command => noting_unused ((laws.stays session).start id command)
  send := fun id data => noting_unused ((laws.stays session).send id data)
  receive := fun id timeout limit => noting_unused ((laws.stays session).receive id timeout limit)
  exec := fun id command => noting_unused ((laws.stays session).exec id command)
  finish := fun id timeout => noting_unused ((laws.stays session).finish id timeout)
  closeChannel := fun id => noting_unused ((laws.stays session).closeChannel id)
  sftpPut := fun id source target => noting_unused ((laws.stays session).sftpPut id source target)
  sftpGet := fun id source target => noting_unused ((laws.stays session).sftpGet id source target)
  closeSftp := fun id => noting_unused ((laws.stays session).closeSftp id)
  scpPut := fun id source target => noting_unused ((laws.stays session).scpPut id source target)
  scpGet := fun id source target => noting_unused ((laws.stays session).scpGet id source target)

theorem attempt_keeps {Q : σ → Prop} (calls : lib.unasked.Keeps Q) (thing : Thing) {o between : Outside σ}
    {outcome : Except Failure Unit} (ran : thing.close lib o = (outcome, between)) (holds : Q o.lib) : Q between.lib := by
  have kept : Q (thing.close lib o).2.lib := by
    cases thing with
    | sftp handle => exact calls.closeSftp handle o holds
    | channel id => exact calls.closeChannel id o holds
    | session id => exact calls.closeSession id o holds
  rw [ran] at kept
  exact kept

theorem Closings.keeps {Q : σ → Prop} (calls : lib.unasked.Keeps Q) {o after : Outside σ} {tried : List Attempt}
    (asked : Closings lib o tried after) (holds : Q o.lib) : Q after.lib := by
  induction asked with
  | done o => exact holds
  | told events rest ih => exact ih holds
  | closed thing ran rest ih => exact ih (attempt_keeps calls thing ran holds)

theorem closeSession_unused (laws : lib.ClosesForGood) {o after : Outside (Recorded σ)}
    (ran : lib.recorded.closeSession session o = (.ok (), after)) : ¬ InUse lib after.lib session := by
  intro used
  cases asked : lib.closeSession session (Recorded.plain o) with
  | mk outcome plain =>
      simp only [Library.recorded, Recorded.silent, Recorded.noting, asked] at ran
      cases ran
      exact absurd (used.isOpen.symm.trans (laws.closes session _ plain asked)) (by decide)

theorem Closings.closed_session (laws : lib.ClosesForGood) {o after : Outside (Recorded σ)} {tried : List Attempt}
    (asked : Closings lib.recorded o tried after) (listed : (.session session, .ok ()) ∈ tried) :
    ¬ InUse lib after.lib session := by
  induction asked with
  | done o => cases listed
  | told events rest ih => exact ih listed
  | closed thing ran rest ih =>
      rcases List.mem_cons.mp listed with first | later
      · cases first
        exact rest.keeps (laws.unused session) (closeSession_unused laws ran)
      · exact ih later

namespace Connection

variable {c : Connection} {s t : Scene (Recorded σ)}

theorem establish_unused (laws : lib.ClosesForGood) {r : Request} {o after : Outside (Recorded σ)}
    {outcome : Except Failure SessionId} (ran : lib.recorded.establish r o = (outcome, after))
    (other : outcome ≠ .ok session) (unused : ¬ InUse lib o.lib session) : ¬ InUse lib after.lib session := by
  obtain ⟨made, state, asked, noted⟩ := lib.recorded_establish r o
  have left : ¬ InUse lib (lib.recorded.establish r o).2.lib session := by
    rw [ran] at noted
    cases noted
    refine noted_unused (fun closed => laws.established session r _ closed (by rw [asked]; exact other)) ?_ unused
    rintro call listed ⟨_, opens⟩
    rw [List.mem_singleton.mp listed, asked] at opens
    cases opens
    exact other rfl
  rw [ran] at left
  exact left

theorem connectUncached_unused (laws : lib.ClosesForGood) {o after : Outside (Recorded σ)}
    {outcome : Except Failure SessionId} (ran : c.connectUncached lib.recorded o = (outcome, after))
    (other : outcome ≠ .ok session) (unused : ¬ InUse lib o.lib session) : ¬ InUse lib after.lib session := by
  have prepares : Outside.Has (fun l => ¬ InUse lib l session) (c.prepare lib.recorded o).2 :=
    prepare_keeps lib.recorded c o unused
  cases first : c.prepare lib.recorded o with
  | mk prepared before =>
      rw [first] at prepares
      cases prepared with
      | error e =>
          rw [connectUncached_unprepared first] at ran
          cases ran
          exact prepares
      | ok r =>
          obtain ⟨told, asks⟩ := connectUncached_prepared first
          rw [asks] at ran
          have dialed : ¬ InUse lib (lib.recorded.dial r before).2.lib session :=
            noted_unused (laws.dialed session r (Recorded.plain before)) (by simp [Call.opens]) prepares
          cases second : lib.recorded.establish r (lib.recorded.dial r before).2 with
          | mk opened last =>
              rw [second] at ran
              cases opened with
              | ok fresh =>
                  cases ran
                  have left := establish_unused laws second other dialed
                  exact left
              | error e =>
                  cases ran
                  have left := establish_unused laws second (by simp) dialed
                  exact left

-- What an operation of a connection does about sessions. Of the registry only the place of its seat is touched, where
-- afterwards nothing is, or what the connection holds. What it brings into use it holds.
structure Turns (lib : Library σ) (c : Connection) (s t : Scene (Recorded σ)) : Prop where
  elsewhere : ∀ seat, seat ≠ c.seat → t.cache.sessions.get? seat = s.cache.sessions.get? seat
  here : t.cache.sessions.get? c.seat = none ∨ t.cache.sessions.get? c.seat = t.held.session ∨
    (t.cache.sessions.get? c.seat = s.cache.sessions.get? c.seat ∧ t.held.session = s.held.session)
  opened : ∀ session, InUse lib t.outside.lib session → InUse lib s.outside.lib session ∨ t.held.session = some session

namespace Turns

variable {mid : Scene (Recorded σ)}

theorem refl (lib : Library σ) (c : Connection) (s : Scene (Recorded σ)) : Turns lib c s s :=
  ⟨fun _ _ => rfl, Or.inr (Or.inr ⟨rfl, rfl⟩), fun _ used => Or.inl used⟩

theorem aside (laws : lib.ClosesForGood) (turns : Turns lib c s mid) (aside : Aside lib.recorded mid t) :
    Turns lib c s t := by
  refine ⟨fun seat apart => ?_, ?_, fun session used => ?_⟩
  · rw [aside.sessions]
    exact turns.elsewhere seat apart
  · rw [aside.sessions, aside.session]
    exact turns.here
  · rw [aside.session]
    by_cases before : InUse lib mid.outside.lib session
    · exact turns.opened session before
    · exact absurd used (aside.kept _ (laws.unused session) before)

theorem trans (first : Turns lib c s mid) (second : Turns lib c mid t)
    (quiet : ∀ session, InUse lib mid.outside.lib session → InUse lib s.outside.lib session) : Turns lib c s t := by
  refine ⟨fun seat apart => (second.elsewhere seat apart).trans (first.elsewhere seat apart), ?_, fun session used => ?_⟩
  · rcases second.here with vacant | own | ⟨kept, held⟩
    · exact Or.inl vacant
    · exact Or.inr (Or.inl own)
    · rw [kept, held]
      exact first.here
  · exact (second.opened session used).imp (quiet session) id

end Turns

theorem connect_turns (laws : lib.ClosesForGood) (sound : s.cache.Sound) :
    Turns lib c s (c.connect lib.recorded s).2 := by
  by_cases live : Cache.Live lib.recorded c.seat s.cache s.outside.lib
  · obtain ⟨session, registered, isOpen⟩ := live
    obtain ⟨told, ran⟩ := connect_live registered isOpen
    rw [ran]
    exact ⟨fun _ _ => rfl, Or.inr (Or.inl registered), fun _ used => Or.inl used⟩
  · obtain ⟨told, ran⟩ := connect_dead sound live
    rw [ran]
    cases asked : c.connectUncached lib.recorded (s.outside.tell told) with
    | mk outcome o =>
        have unused (session : SessionId) (other : outcome ≠ .ok session) (used : InUse lib o.lib session) :
            InUse lib s.outside.lib session := by
          by_cases before : InUse lib s.outside.lib session
          · exact before
          · exact absurd used (connectUncached_unused laws asked other before)
        cases outcome with
        | ok fresh =>
            refine ⟨fun seat apart => ?_, Or.inr (Or.inl (Cache.register_get fresh)), fun session used => ?_⟩
            · exact (Cache.register_elsewhere sound.swept fresh apart).trans (Cache.swept_elsewhere apart)
            · by_cases same : fresh = session
              · exact Or.inr (congrArg some same)
              · exact Or.inl (unused session (by simpa using same) used)
        | error e =>
            refine ⟨fun seat apart => ?_, Or.inl ?_, fun session used => Or.inl (unused session (by simp) used)⟩
            · exact (Cache.giveUp_get sound.swept seat).trans (Cache.swept_elsewhere apart)
            · exact (Cache.giveUp_get sound.swept c.seat).trans (Cache.swept_vacant live)

theorem ensureConnected_turns (laws : lib.ClosesForGood) (sound : s.cache.Sound) :
    Turns lib c s (c.ensureConnected lib.recorded s).2 ∧ ∀ session, s.held.session = some session →
      InUse lib s.outside.lib session → (c.ensureConnected lib.recorded s).2.held.session = some session := by
  by_cases own : OwnOpen lib.recorded s
  · obtain ⟨session, holds, isOpen⟩ := own
    rw [ensureConnected_own holds isOpen]
    exact ⟨.refl lib c s, fun _ held _ => held⟩
  · rw [ensureConnected_connect own]
    exact ⟨connect_turns laws sound, fun session held used => absurd ⟨session, held, used.isOpen⟩ own⟩

theorem uses_turns (laws : lib.ClosesForGood) (uses : Uses lib.recorded c s t) :
    Turns lib c s t ∧ ∀ session, s.held.session = some session → InUse lib t.outside.lib session →
      t.held.session = some session := by
  cases uses with
  | idle aside same => exact ⟨(Turns.refl lib c s).aside laws aside, fun session held _ => by rw [same, held]⟩
  | ensured before sound held sessions same aside =>
      obtain ⟨turns, keeps⟩ := ensureConnected_turns (c := c) laws sound
      have all := turns.aside laws aside
      refine ⟨⟨?_, ?_, ?_⟩, fun session own used => ?_⟩
      · simpa only [sessions] using all.elsewhere
      · simpa only [sessions, held] using all.here
      · simpa only [same] using all.opened
      · rcases all.opened session used with before_used | after
        · rw [aside.session]
          exact keeps session (by rw [held, own]) before_used
        · exact after

theorem connect_failed {e : Failure} (sound : s.cache.Sound) (ran : c.connect lib.recorded s = (.error e, t)) :
    t.held.session = s.held.session := by
  obtain ⟨_, _, held, _⟩ := connect_fails sound ran
  rw [held]

theorem close_turns (laws : lib.ClosesForGood) {outcome : Except Failure Unit}
    (ran : c.close lib.recorded s = (outcome, t)) :
    Turns lib c s t ∧ (∀ session, InUse lib t.outside.lib session → InUse lib s.outside.lib session) ∧
      (outcome = .ok () → ∀ session, s.held.session = some session → ¬ InUse lib t.outside.lib session) ∧
      (outcome ≠ .ok () → t.held.session = none ∨ t.held.session = s.held.session) := by
  obtain ⟨tried, came⟩ := close_came ran
  have cache := close_cache ran
  have asked : Closings lib.recorded s.outside tried t.outside := came.asked
  have left : s.held.things = tried.map Prod.fst ++ t.held.things := came.left
  have unopened (session : SessionId) (used : InUse lib t.outside.lib session) : InUse lib s.outside.lib session := by
    by_cases before : InUse lib s.outside.lib session
    · exact before
    · exact absurd used (Closings.keeps (laws.unused session) asked before)
  refine ⟨⟨fun seat apart => ?_, Or.inl ?_, fun session used => Or.inl (unopened session used)⟩, unopened, ?_, ?_⟩
  · rw [cache, Cache.without, Registry.get_erase, if_neg apart]
  · rw [cache, Cache.without, Registry.get_erase, if_pos rfl]
  · rintro rfl session holds
    have emptied := came.ended.emptied
    have listed : .session session ∈ tried.map Prod.fst := by
      have member := (Held.session_mem s.held session).mpr holds
      rw [left, emptied] at member
      simpa [Held.things] using member
    obtain ⟨⟨thing, result⟩, member, same⟩ := List.mem_map.mp listed
    cases same
    have well : result = .ok () := came.ended.well _ member
    exact asked.closed_session laws (well ▸ member)
  · intro failed
    cases kept : t.held.session with
    | none => exact Or.inl rfl
    | some session =>
        refine Or.inr ((Held.session_mem s.held session).mp ?_).symm
        rw [left]
        exact List.mem_append_right _ ((Held.session_mem t.held session).mpr kept)

theorem reset_turns (laws : lib.ClosesForGood) (sound : s.cache.Sound) :
    Turns lib c s (c.reset lib.recorded s).2 ∧ ∀ mid, c.close lib.recorded s = (.ok (), mid) → ∀ session,
      s.held.session = some session → InUse lib (c.reset lib.recorded s).2.outside.lib session →
      (c.reset lib.recorded s).2.held.session = some session := by
  rcases reset_cases lib.recorded c s with ⟨e, t, failed, same⟩ | ⟨t, closed, same⟩
  · rw [same]
    refine ⟨(close_turns laws failed).1, fun mid well => ?_⟩
    rw [failed] at well
    cases well
  · obtain ⟨turns, quiet, unused, _⟩ := close_turns laws closed
    have kept : t.cache.Sound := close_cache closed ▸ sound.without c.seat
    -- The state that is set in between is none of what turns.
    have connects := connect_turns (c := c) (s := { t with held := { t.held with state := .disconnected } }) laws kept
    rw [same]
    refine ⟨turns.trans ⟨connects.elsewhere, connects.here, connects.opened⟩ quiet, fun mid well session holds used => ?_⟩
    rcases connects.opened session used with before | after
    · exact absurd before (unused rfl session holds)
    · exact after

theorem operation_turns (laws : lib.ClosesForGood) (sound : s.cache.Sound) (operation : Operation) :
    Turns lib c s (operation.act lib.recorded c s).2 := by
  cases operation_course lib.recorded c sound operation with
  | connects same =>
      rw [same, Operation.act, scene_unread]
      exact connect_turns laws sound
  | closes same =>
      rw [same]
      exact (close_turns laws rfl).1
  | resets same =>
      rw [same, Operation.act, scene_unread]
      exact (reset_turns laws sound).1
  | through source target handle same registered =>
      rw [same]
      exact (Turns.refl lib c s).aside laws (fetch_through registered).1
  | uses uses => exact (uses_turns laws uses).1

-- The connection lets go of a session that is still in use: it is given another one, since its own is not registered
-- any more, or fails to close it.
inductive LetsGo (lib : Library σ) (c : Connection) (s : Scene (Recorded σ)) (session : SessionId) : Operation → Prop where
  | connect (fresh : SessionId) (t : Scene (Recorded σ)) (unregistered : s.cache.sessions.get? c.seat ≠ some session)
      (ran : c.connect lib.recorded s = (.ok fresh, t)) (apart : fresh ≠ session)
      (used : InUse lib t.outside.lib session) : LetsGo lib c s session .connect
  | close (e : Failure) (t : Scene (Recorded σ)) (ran : c.close lib.recorded s = (.error e, t))
      (gone : t.held.session = none) (used : InUse lib t.outside.lib session) : LetsGo lib c s session .close
  | reset (e : Failure) (t : Scene (Recorded σ)) (ran : c.close lib.recorded s = (.error e, t))
      (gone : t.held.session = none) (used : InUse lib t.outside.lib session) : LetsGo lib c s session .reset

theorem lets_go {operation : Operation} (laws : lib.ClosesForGood) (sound : s.cache.Sound)
    (holds : s.held.session = some session)
    (used : InUse lib (operation.act lib.recorded c s).2.outside.lib session)
    (gone : (operation.act lib.recorded c s).2.held.session ≠ some session) : LetsGo lib c s session operation := by
  have fails {e : Failure} {t : Scene (Recorded σ)} (ran : c.close lib.recorded s = (.error e, t))
      (away : t.held.session ≠ some session) : t.held.session = none := by
    rcases (close_turns laws ran).2.2.2 (by simp) with none | same
    · exact none
    · exact absurd (same.trans holds) away
  cases operation_course lib.recorded c sound operation with
  | connects same =>
      rw [same, Operation.act, scene_unread] at used gone
      cases ran : c.connect lib.recorded s with
      | mk outcome t =>
          rw [ran] at used gone
          cases outcome with
          | error e => exact absurd ((connect_failed sound ran).trans holds) gone
          | ok fresh =>
              have held : t.held.session = some fresh := (connect_registers sound ran).2
              have apart : fresh ≠ session := fun eq => gone (held.trans (congrArg some eq))
              have turns : Turns lib c s t := by
                have all := connect_turns (c := c) laws sound
                rwa [ran] at all
              rw [same]
              refine .connect fresh t (fun registered => apart ?_) ran apart used
              -- An open session that is registered is the one that is given.
              rcases turns.opened session used with before | own
              · have isOpen : lib.recorded.isClosed s.outside.lib session = false := before.isOpen
                obtain ⟨told, found⟩ := connect_live registered isOpen
                rw [ran] at found
                exact Except.ok.inj (congrArg Prod.fst found)
              · exact Option.some.inj (held.symm.trans own)
  | closes same =>
      rw [same, Operation.act] at used gone
      cases ran : c.close lib.recorded s with
      | mk outcome t =>
          rw [ran] at used gone
          cases outcome with
          | ok done => exact absurd used ((close_turns laws ran).2.2.1 rfl session holds)
          | error e =>
              rw [same]
              exact .close e t ran (fails ran gone) used
  | resets same =>
      rw [same, Operation.act, scene_unread] at used gone
      rcases reset_cases lib.recorded c s with ⟨e, t, ran, failed⟩ | ⟨mid, closed, _⟩
      · rw [failed] at used gone
        rw [same]
        exact .reset e t ran (fails ran gone) used
      · exact absurd ((reset_turns laws sound).2 mid closed session holds used) gone
  | through source target handle same registered =>
      rw [same, Operation.act, (fetch_through registered).1.session] at gone
      exact absurd holds gone
  | uses uses => exact absurd ((uses_turns laws uses).2 session holds used) gone

theorem LetsGo.gone {operation : Operation} (sound : s.cache.Sound) (lets : LetsGo lib c s session operation) :
    InUse lib (operation.act lib.recorded c s).2.outside.lib session ∧
      (operation.act lib.recorded c s).2.held.session ≠ some session := by
  cases lets with
  | connect fresh t unregistered ran apart used =>
      rw [Operation.act, scene_unread, ran]
      refine ⟨used, ?_⟩
      rw [(connect_registers sound ran).2]
      simpa using apart
  | close e t ran gone used =>
      rw [Operation.act, ran]
      exact ⟨used, by simp [gone]⟩
  | reset e t ran gone used =>
      rw [Operation.act, scene_unread, reset_failed ran]
      exact ⟨used, by simp [gone]⟩

end Connection

namespace World

open Connection

def Holds (w : World σ) (i : Nat) (session : SessionId) : Prop := (w.scene i).held.session = some session

def Accounted (w : World σ) (session : SessionId) : Prop :=
  (∃ i, w.Holds i session) ∨ ∃ seat, w.cache.sessions.get? seat = some session

def Accounts (lib : Library σ) (w : World (Recorded σ)) : Prop := ∀ session, InUse lib w.lib session → w.Accounted session

def Backed (seats : Nat → Seat) (w : World σ) : Prop :=
  ∀ seat session, w.cache.sessions.get? seat = some session → ∃ i, seats i = seat ∧ w.Holds i session

def Proper (lib : Library σ) (seats : Nat → Seat) (size : Nat) : Happening σ → Prop
  | .act i c _ => i < size ∧ c.seat = seats i
  | .server change => ∀ l session, lib.isClosed l session = true → lib.isClosed (change l) session = true

inductive Abandons (lib : Library σ) (w : World (Recorded σ)) : Happening σ → Prop where
  | act {i : Nat} {c : Connection} {operation : Operation} (session : SessionId) (holds : w.Holds i session)
      (last : ∀ j, j ≠ i → ¬ w.Holds j session) (lets : LetsGo lib c (w.scene i) session operation) :
      Abandons lib w (.act i c operation)

variable {seats : Nat → Seat} {w : World (Recorded σ)} {i : Nat} {c : Connection} {operation : Operation}

theorem step_size (happening : Happening σ) : (step lib w happening).members.length = w.members.length := by
  cases happening with
  | act i c operation => exact List.length_set
  | server change => rfl

theorem holds_own (known : i < w.members.length) :
    (step lib w (.act i c operation)).Holds i session ↔
      (operation.act lib.recorded c (w.scene i)).2.held.session = some session := by
  have found : (step lib w (.act i c operation)).members[i]? = some ⟨(operation.act lib.recorded c (w.scene i)).2.held,
      (operation.act lib.recorded c (w.scene i)).2.outside.operator⟩ := List.getElem?_set_self known
  simp only [Holds, scene, found, Option.getD_some]

theorem holds_other {j : Nat} (apart : j ≠ i) :
    (step lib w (.act i c operation)).Holds j session ↔ w.Holds j session := by
  have found : (step lib w (.act i c operation)).members[j]? = w.members[j]? :=
    List.getElem?_set_ne (Ne.symm apart)
  simp only [Holds, scene, found]

theorem step_backed (laws : lib.ClosesForGood) (sound : w.cache.Sound) {happening : Happening σ}
    (proper : Proper lib seats w.members.length happening) (backed : Backed seats w) :
    Backed seats (step lib w happening) := by
  cases happening with
  | server change => exact backed
  | act i c operation =>
      obtain ⟨known, seated⟩ := proper
      have turns : Turns lib c (w.scene i) (operation.act lib.recorded c (w.scene i)).2 :=
        operation_turns (s := w.scene i) laws sound operation
      intro seat session registered
      have kept (before : w.cache.sessions.get? seat = some session)
          (own : seat = c.seat → w.Holds i session → (step lib w (.act i c operation)).Holds i session) :
          ∃ j, seats j = seat ∧ (step lib w (.act i c operation)).Holds j session := by
        obtain ⟨j, sits, holds⟩ := backed seat session before
        by_cases same : j = i
        · subst same
          exact ⟨j, sits, own (sits.symm.trans seated.symm) holds⟩
        · exact ⟨j, sits, (holds_other same).mpr holds⟩
      by_cases mine : seat = c.seat
      · subst mine
        rcases turns.here with vacant | own | ⟨same, held⟩
        · exact absurd (registered.symm.trans vacant) (by simp)
        · exact ⟨i, seated.symm, (holds_own known).mpr (own.symm.trans registered)⟩
        · exact kept (same.symm.trans registered) fun _ holds => (holds_own known).mpr (held.trans holds)
      · exact kept ((turns.elsewhere seat mine).symm.trans registered) fun same _ => absurd same mine

theorem Accounted.held (backed : Backed seats w) (accounted : w.Accounted session) : ∃ i, w.Holds i session := by
  rcases accounted with held | ⟨seat, registered⟩
  · exact held
  · obtain ⟨i, _, holds⟩ := backed seat session registered
    exact ⟨i, holds⟩

theorem step_accounts_iff (laws : lib.ClosesForGood) (sound : w.cache.Sound) {happening : Happening σ}
    (proper : Proper lib seats w.members.length happening) (backed : Backed seats w) (accounts : Accounts lib w) :
    Accounts lib (step lib w happening) ↔ ¬ Abandons lib w happening := by
  have after_backed := step_backed laws sound proper backed
  cases happening with
  | server change =>
      refine ⟨fun _ abandons => (nomatch abandons), fun _ session used => accounts session ⟨used.opened, ?_⟩⟩
      exact Bool.eq_false_iff.mpr fun closed => absurd (used.isOpen.symm.trans (proper _ session closed)) (by decide)
  | act i c operation =>
      constructor
      · rintro after ⟨session, _, last, lets⟩
        obtain ⟨used, gone⟩ := lets.gone (s := w.scene i) sound
        obtain ⟨j, holds⟩ := (after session used).held after_backed
        by_cases same : j = i
        · subst same
          exact gone ((holds_own proper.1).mp holds)
        · exact last j same ((holds_other same).mp holds)
      · intro spares session used
        have turns : Turns lib c (w.scene i) (operation.act lib.recorded c (w.scene i)).2 :=
          operation_turns (s := w.scene i) laws sound operation
        rcases turns.opened session used with before | own
        · obtain ⟨j, holds⟩ := (accounts session before).held backed
          by_cases other : ∃ k, k ≠ i ∧ w.Holds k session
          · obtain ⟨k, apart, held⟩ := other
            exact Or.inl ⟨k, (holds_other apart).mpr held⟩
          · have last : ∀ k, k ≠ i → ¬ w.Holds k session := fun k apart held => other ⟨k, apart, held⟩
            have mine : w.Holds i session := by
              by_cases same : j = i
              · exact same ▸ holds
              · exact absurd holds (last j same)
            by_cases kept : (operation.act lib.recorded c (w.scene i)).2.held.session = some session
            · exact Or.inl ⟨i, (holds_own proper.1).mpr kept⟩
            · exact absurd (.act session mine last (lets_go (s := w.scene i) laws sound mine used kept)) spares
        · exact Or.inl ⟨i, (holds_own proper.1).mpr own⟩

structure Seated (seats : Nat → Seat) (size : Nat) (w : World (Recorded σ)) : Prop where
  consistent : Consistent w.cache w.lib
  size : w.members.length = size
  backed : Backed seats w

theorem Fresh.seated {start : World (Recorded σ)} (fresh : Fresh start) (seats : Nat → Seat) :
    Seated seats start.members.length start := by
  refine ⟨fresh.consistent, rfl, fun seat session registered => ?_⟩
  rw [fresh.cache] at registered
  cases registered

theorem Fresh.accounts {start : World (Recorded σ)} (fresh : Fresh start) (lib : Library σ) : Accounts lib start := by
  intro session used
  obtain ⟨r, listed⟩ := used.opened
  rw [fresh.calls] at listed
  cases listed

theorem step_seated (laws : lib.ClosesForGood) {size : Nat} {happening : Happening σ}
    (proper : Proper lib seats size happening) (seated : Seated seats size w) :
    Seated seats size (step lib w happening) where
  consistent := step_consistent w happening seated.consistent
  size := (step_size happening).trans seated.size
  backed := step_backed laws seated.consistent.sound (seated.size ▸ proper) seated.backed

theorem sessions_accounted_iff (lib : Library σ) (laws : lib.ClosesForGood) (start : World (Recorded σ))
    (fresh : Fresh start) (seats : Nat → Seat) (happenings : List (Happening σ))
    (proper : ∀ happening ∈ happenings, Proper lib seats start.members.length happening) :
    (∀ n, Accounts lib (run lib (happenings.take n) start)) ↔
      ∀ n happening, happenings[n]? = some happening → ¬ Abandons lib (run lib (happenings.take n) start) happening := by
  have always (n : Nat) : Seated seats start.members.length (run lib (happenings.take n) start) :=
    run_always (fresh.seated seats) (fun w happening listed => step_seated laws (proper happening listed)) n
  refine run_always_iff always (fresh.accounts lib) ?_
  intro w happening listed seated accounts
  exact step_accounts_iff laws seated.consistent.sound (seated.size ▸ proper happening listed) seated.backed accounts

def evicted : List (Happening Memory.State) :=
  [.act 0 Memory.web .connect, .act 1 Memory.web .close, .act 0 Memory.web .connect]

theorem session_lost :
    ¬ Accounts Memory.mock (run Memory.mock evicted Memory.idle) ∧
      (run Memory.mock evicted Memory.idle).lib.state.sessionCloses = 0 := by
  refine ⟨fun accounts => ?_, rfl⟩
  have used : InUse Memory.mock (run Memory.mock evicted Memory.idle).lib 0 :=
    ⟨⟨_, List.mem_cons_of_mem _ List.mem_cons_self⟩, rfl⟩
  rcases accounts 0 used with ⟨i, holds⟩ | ⟨seat, registered⟩
  · match i, holds with
    | 0, holds => cases holds
    | 1, holds => cases holds
    | n + 2, holds => cases holds
  · have place : (run Memory.mock evicted Memory.idle).cache.sessions = ⟨[(Memory.web.seat, 1)], [(1, 1), (0, 0)], 2⟩ := rfl
    rw [place] at registered
    by_cases same : Memory.web.seat = seat
    · simp [Registry.get?, Registry.cell?, Registry.value?, same] at registered
    · simp [Registry.get?, Registry.cell?, same] at registered

theorem sessions_accounted_apart :
    Accounts Memory.mock (run Memory.mock (evicted.take 2 ++ [.act 1 Memory.web .connect]) Memory.idle) := by
  have laws : Memory.mock.ClosesForGood := Memory.library_closes_for_good "mock" ⟨1, 0, 0⟩
  refine (sessions_accounted_iff Memory.mock laws Memory.idle Memory.idle_fresh (fun _ => Memory.web.seat)
    (evicted.take 2 ++ [.act 1 Memory.web .connect]) ?_).mpr ?_ 3
  · intro happening listed
    simp only [evicted, List.take, List.cons_append, List.nil_append, List.mem_cons, List.not_mem_nil, or_false] at listed
    rcases listed with rfl | rfl | rfl
    · exact ⟨by decide, rfl⟩
    · exact ⟨by decide, rfl⟩
    · exact ⟨by decide, rfl⟩
  · intro n happening next abandons
    match n, next with
    | 0, next =>
        cases next
        cases abandons with
        | act session holds last lets => cases holds
    | 1, next =>
        cases next
        cases abandons with
        | act session holds last lets => cases holds
    | 2, next =>
        cases next
        cases abandons with
        | act session holds last lets => cases holds
    | n + 3, next => cases next

end World
end RemoteExec

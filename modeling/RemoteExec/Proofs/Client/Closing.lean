import RemoteExec.Client.Connect
import RemoteExec.Proofs.HostKeys.Saving
import RemoteExec.Proofs.Session.Steps
import RemoteExec.ScriptedServer.Basic

namespace RemoteExec.Client

variable {π α : Type}

-- A server that keeps a record of the links that it was told to break, and broke.
structure Noted (π : Type) where
  state : π
  broken : List LinkId

def Noted.under (act : StateM π α) : StateM (Noted π) α := fun n => ((act n.state).1, { n with state := (act n.state).2 })

open Noted in
def noted (server : Server π) : Server (Noted π) where
  connect := fun target timeout => under (server.connect target timeout)
  hostKeys := fun n => server.hostKeys n.state
  authenticate := fun link request => under (server.authenticate link request)
  openChannel := fun link => under (server.openChannel link)
  requestPty := fun line => under (server.requestPty line)
  run := fun line command => under (server.run line command)
  input := fun line data => under (server.input line data)
  closeChannel := fun line => under (server.closeChannel line)
  startFiles := fun line => under (server.startFiles line)
  createFile := fun path => under (server.createFile path)
  writeFile := fun path content => under (server.writeFile path content)
  readFile := fun n path => server.readFile n.state path
  unsent := fun n line => server.unsent n.state line
  disconnect := fun link n =>
    match server.disconnect link n.state with
    | (.ok (), p) => (.ok (), ⟨p, n.broken ++ [link]⟩)
    | (.error why, p) => (.error why, ⟨p, n.broken⟩)

structure Attempt (π : Type) where
  before : Outside (State π)
  outcome : Except Failure Unit
  after : Outside (State π)

def attempt (server : Server π) (id : SessionId) (o : Outside (State π)) : Attempt π :=
  ⟨o, (closeSession server id o).1, (closeSession server id o).2⟩

-- Whatever others did, the session is what it was, but for its link, which may be lost.
def Spares (id : SessionId) (o p : Outside (State π)) : Prop :=
  ∀ s, o.lib.sessions[id]? = some s → ∃ linked, p.lib.sessions[id]? = some { s with linked := linked }

inductive Calls (server : Server π) (id : SessionId) : Outside (State π) → List (Attempt π) → Prop
  | stop (o : Outside (State π)) : Calls server id o []
  | call {o p : Outside (State π)} {later : List (Attempt π)} (aside : Spares id o p)
      (rest : Calls server id (attempt server id p).after later) : Calls server id o (attempt server id p :: later)

section Run

variable (server : Server π) {id : SessionId} {o : Outside (State π)} {s : Session}

theorem run_state (o : Outside (State π)) : state o = (.ok o.lib, o) := rfl

theorem run_atServer (act : StateM π α) (o : Outside (State π)) :
    atServer act o = (.ok (act o.lib.server).1, { o with lib := { o.lib with server := (act o.lib.server).2 } }) := rfl

theorem run_tellAll (events : List Event) (o : Outside (State π)) : tellAll events o = (.ok (), o.tell events) := rfl

theorem run_setSession (id : SessionId) (s : Session) (o : Outside (State π)) :
    setSession id s o = (.ok (), { o with lib := { o.lib with sessions := o.lib.sessions.set id s } }) := rfl

theorem run_ofExcept (e : Except Failure α) (o : Outside (State π)) : ofExcept e o = (e, o) := by
  cases e with
  | ok a => rfl
  | error e => rfl

theorem closeSession_begun (found : o.lib.sessions[id]? = some s) (begun : s.closing = true) :
    closeSession server id o = (.ok (), o) := by
  simp [closeSession, run_state, found, begun]

def begun (s : Session) (gate : Gate) : Session := { s with closing := true, gate := gate }

theorem closeSession_fresh (found : o.lib.sessions[id]? = some s) (fresh : s.closing = false) :
    closeSession server id o =
      match s.gate.persist o.files with
      | (.error (e, files), gate, events) => (.error e, { o.tell events with
          files := files
          lib := { o.lib with sessions := o.lib.sessions.set id (begun s gate) } })
      | (.ok files, gate, events) =>
        match server.disconnect s.link o.lib.server with
        | (.error why, p) => (.error (.connection why), { o.tell events with
            files := files
            lib := { o.lib with sessions := o.lib.sessions.set id (begun s gate), server := p } })
        | (.ok (), p) => (.ok (), { o.tell (events ++ [⟨.debug, "SSH session disconnected"⟩]) with
            files := files
            lib := { o.lib with
              sessions := o.lib.sessions.set id { begun s gate with linked := false }, server := p } }) := by
  cases saving : s.gate.persist o.files with
  | mk saved rest =>
      obtain ⟨gate, events⟩ := rest
      cases saved with
      | error e =>
          simp [closeSession, run_state, found, fresh, Session.save, saving, run_setSession, run_ofExcept, Outside.tell, begun]
      | ok files =>
          cases answer : server.disconnect s.link o.lib.server with
          | mk verdict p =>
              cases verdict with
              | error why =>
                  simp [closeSession, run_state, found, fresh, Session.save, saving, run_setSession, run_ofExcept,
                    run_atServer, answer, Outside.tell, begun]
              | ok done =>
                  simp [closeSession, run_state, found, fresh, Session.save, saving, run_setSession, run_ofExcept,
                    run_atServer, answer, Outside.tell, begun]

inductive First (s : Session) (a : Attempt π) : Prop where
  | unsaved (e : Failure) (failed : (s.gate.persist a.before.files).1 = .error (e, a.after.files))
      (outcome : a.outcome = .error e) (untouched : a.after.lib.server = a.before.lib.server)
  | refused (why : String) (saved : (s.gate.persist a.before.files).1 = .ok a.after.files)
      (answer : server.disconnect s.link a.before.lib.server = (.error why, a.after.lib.server))
      (outcome : a.outcome = .error (.connection why))
  | closed (saved : (s.gate.persist a.before.files).1 = .ok a.after.files)
      (answer : server.disconnect s.link a.before.lib.server = (.ok (), a.after.lib.server)) (outcome : a.outcome = .ok ())

theorem closeSession_first (found : o.lib.sessions[id]? = some s) (fresh : s.closing = false) :
    First server s (attempt server id o) ∧
      ∃ left, (attempt server id o).after.lib.sessions[id]? = some left ∧ left.closing = true := by
  have inside : id < o.lib.sessions.length := (List.getElem?_eq_some_iff.mp found).1
  have run := closeSession_fresh server found fresh
  cases saving : s.gate.persist o.files with
  | mk saved rest =>
      obtain ⟨gate, events⟩ := rest
      rw [saving] at run
      cases saved with
      | error e =>
          simp only [attempt, run]
          refine ⟨.unsaved e.1 ?_ rfl rfl, begun s gate, List.getElem?_set_self inside, rfl⟩
          rw [saving]
      | ok files =>
          cases answer : server.disconnect s.link o.lib.server with
          | mk verdict p =>
              rw [answer] at run
              cases verdict with
              | error why =>
                  simp only [attempt, run]
                  refine ⟨.refused why ?_ answer rfl, begun s gate, List.getElem?_set_self inside, rfl⟩
                  rw [saving]
              | ok done =>
                  simp only [attempt, run]
                  refine ⟨.closed ?_ answer rfl, { begun s gate with linked := false }, List.getElem?_set_self inside, rfl⟩
                  rw [saving]

end Run

section Record

def plain (o : Outside (State (Noted π))) : Outside (State π) :=
  ⟨⟨o.lib.server.state, o.lib.sessions, o.lib.channels, o.lib.fileHandles, o.lib.transferHandles⟩, o.files, o.operator, o.log⟩

variable (server : Server π) (id : SessionId) (o : Outside (State (Noted π)))

theorem closeSession_noted :
    closeSession server id (plain o) =
      ((closeSession (noted server) id o).1, plain (closeSession (noted server) id o).2) := by
  cases found : o.lib.sessions[id]? with
  | none => simp [closeSession, run_state, plain, found]
  | some s =>
      cases fresh : s.closing with
      | true =>
          rw [closeSession_begun (noted server) found fresh, closeSession_begun server (o := plain o) found fresh]
      | false =>
          rw [closeSession_fresh (noted server) found fresh, closeSession_fresh server (o := plain o) found fresh]
          have files : (plain o).files = o.files := rfl
          rw [files]
          cases s.gate.persist o.files with
          | mk saved rest =>
              obtain ⟨gate, events⟩ := rest
              cases saved with
              | error e => rfl
              | ok files =>
                  have under : server.disconnect s.link (plain o).lib.server =
                    server.disconnect s.link o.lib.server.state := rfl
                  simp only [under, noted]
                  cases server.disconnect s.link o.lib.server.state with
                  | mk verdict p =>
                      cases verdict with
                      | error why => rfl
                      | ok done => rfl

end Record

section Opening

variable {server : Server π} {env : Environment} {r : Request} {o p : Outside (State π)} {id : SessionId}

theorem run_attempt_ok {op : Op (State π) α} {x : α} (ran : Op.attempt op o = (.ok (.ok x), p)) : op o = (.ok x, p) := by
  rw [Op.run_attempt] at ran
  cases split : op o with
  | mk outcome between =>
      rw [split] at ran
      cases ran
      rfl

theorem letThrough_gate {gate left : Gate} {key : PublicKey} (ran : letThrough gate key o = (.ok left, p)) :
    left = (gate.check key o.operator).2.1 := by
  cases checked : gate.check key o.operator with
  | mk outcome rest =>
      obtain ⟨after, operator, events⟩ := rest
      cases outcome with
      | ok done =>
          have run : letThrough gate key o = (.ok after, { o.tell events with operator := operator }) := by
            simp [letThrough, checked, run_ofExcept, Except.map]
          rw [run] at ran
          cases ran
          rfl
      | error e =>
          have run : letThrough gate key o = (.error e, { o.tell events with operator := operator }) := by
            simp [letThrough, checked, run_ofExcept, Except.map]
          rw [run] at ran
          cases ran

theorem settle_gate {target : Target} {gate left : Gate} {accepted : List String} {link : LinkId}
    (ran : settle server env r target gate accepted link o = (.ok left, p)) :
    ∃ key operator, left = (gate.check key operator).2.1 := by
  obtain ⟨key, shown, _, ran⟩ := run_bind_ok ran
  obtain ⟨passed, let_through, checked, ran⟩ := run_bind_ok ran
  obtain ⟨_, _, _, ran⟩ := run_bind_ok ran
  cases ran
  exact ⟨key, shown.operator, letThrough_gate checked⟩

theorem knownHosts_loads {store : KnownHosts} (ran : knownHosts env r o = (.ok store, p)) :
    ∃ path, (KnownHosts.load o.files path).1 = .ok store := by
  cases named : r.knownHostsFile <|> KnownHosts.defaultPath? env with
  | none =>
      simp only [knownHosts, named] at ran
      cases ran
  | some path =>
      refine ⟨path, ?_⟩
      simp only [knownHosts, named, run_bind, run_pure, run_get, run_tellAll, run_ofExcept] at ran
      exact congrArg Prod.fst ran

theorem establish_opens (agree : r.checking = r.policy.checking) (ran : establish server env r o = (.ok id, p)) :
    ∃ link host port path fs store operator key, (KnownHosts.load fs path).1 = .ok store ∧
      p.lib.sessions[id]? = some ⟨link, (Gate.run host port r.policy store operator [key]).gate, false, true⟩ := by
  obtain ⟨_, _, got, ran⟩ := run_bind_ok ran
  cases got
  obtain ⟨_, _, _, ran⟩ := run_bind_ok ran
  obtain ⟨target, _, _, ran⟩ := run_bind_ok ran
  obtain ⟨_, _, _, ran⟩ := run_bind_ok ran
  obtain ⟨store, _, loads, ran⟩ := run_bind_ok ran
  obtain ⟨path, loaded⟩ := knownHosts_loads loads
  obtain ⟨_, _, _, ran⟩ := run_bind_ok ran
  obtain ⟨link, reached, _, ran⟩ := run_bind_ok ran
  obtain ⟨outcome, between, attempted, ran⟩ := run_bind_ok ran
  cases outcome with
  | error e =>
      obtain ⟨_, _, _, ran⟩ := run_bind_ok ran
      cases ran
  | ok gate =>
      obtain ⟨key, operator, checked⟩ := settle_gate (run_attempt_ok attempted)
      have opened : id = between.lib.sessions.length ∧
          p.lib.sessions = between.lib.sessions ++ [⟨link, gate, false, true⟩] := by
        cases ran
        exact ⟨rfl, rfl⟩
      refine ⟨link, target.host, target.port, path, _, store, operator, key, loaded, ?_⟩
      rw [opened.2, opened.1, List.getElem?_concat_length, checked, agree]
      rfl

end Opening

section Promise

def Attempt.records (gate : Gate) (a : Attempt π) : Prop :=
  gate.policy.checking = true → gate.trusted ≠ [] → gate.Records a.before.files a.after.files

def Attempt.breaks (link : LinkId) (a : Attempt (Noted π)) : Prop :=
  a.after.lib.server.broken = a.before.lib.server.broken ++ [link]

-- What a call that goes well promises: by then some call has written the keys, and some call has broken the link.
def Kept (gate : Gate) (link : LinkId) (calls : List (Attempt (Noted π))) : Prop :=
  ∀ (k : Nat) (a : Attempt (Noted π)), calls[k]? = some a → a.outcome = .ok () →
    (∃ j b, j ≤ k ∧ calls[j]? = some b ∧ b.records gate) ∧ ∃ j b, j ≤ k ∧ calls[j]? = some b ∧ b.breaks link

variable {server : Server π} {id : SessionId} {s : Session} {gate : Gate} {link : LinkId}

theorem calls_begun {server : Server α} {o : Outside (State α)} {calls : List (Attempt α)}
    (closes : Calls server id o calls) {s : Session} (found : o.lib.sessions[id]? = some s) (begun : s.closing = true) :
    ∀ a ∈ calls, a.outcome = .ok () ∧ a.after = a.before := by
  induction closes generalizing s with
  | stop o => simp
  | @call o p later spared rest ih =>
      obtain ⟨linked, still⟩ := spared s found
      have silent := closeSession_begun server still begun
      intro a member
      rcases List.mem_cons.mp member with rfl | listed
      · simp only [attempt, silent]
        exact ⟨trivial, trivial⟩
      · refine ih (s := { s with linked := linked }) ?_ begun a listed
        simp only [attempt, silent]
        exact still

theorem not_breaks {a : Attempt (Noted π)} (same : a.after.lib.server.broken = a.before.lib.server.broken) :
    ¬ a.breaks link := by
  intro broken
  have sizes := congrArg List.length (same.symm.trans broken)
  simp at sizes

theorem First.breaks_iff {a : Attempt (Noted π)} (first : First (noted server) s a) :
    a.breaks s.link ↔ a.outcome = .ok () := by
  cases first with
  | unsaved e failed outcome untouched =>
      have idle : ¬ a.breaks s.link := not_breaks (by rw [untouched])
      simp [outcome, idle]
  | refused why saved answer outcome =>
      have idle : ¬ a.breaks s.link := by
        apply not_breaks
        simp only [noted] at answer
        split at answer
        · cases answer
        · obtain ⟨_, after⟩ := Prod.mk.inj answer
          rw [← after]
      simp [outcome, idle]
  | closed saved answer outcome =>
      have broken : a.breaks s.link := by
        simp only [noted] at answer
        split at answer
        · obtain ⟨_, after⟩ := Prod.mk.inj answer
          rw [Attempt.breaks, ← after]
        · cases answer
      simp [outcome, broken]

theorem First.records {server : Server α} {a : Attempt α} (first : First server s a) (unsaved : s.gate.Unsaved)
    (well : a.outcome = .ok ()) : a.records s.gate := by
  intro checks some_trusted
  cases first with
  | unsaved e failed outcome untouched =>
      rw [well] at outcome
      cases outcome
  | refused why saved answer outcome => exact Gate.persist_records unsaved checks some_trusted saved
  | closed saved answer outcome => exact Gate.persist_records unsaved checks some_trusted saved

theorem kept_iff {first : Attempt (Noted π)} {later : List (Attempt (Noted π))}
    (breaks : first.breaks link ↔ first.outcome = .ok ()) (records : first.outcome = .ok () → first.records gate)
    (silent : ∀ a ∈ later, a.outcome = .ok () ∧ a.after = a.before) :
    Kept gate link (first :: later) ↔ later = [] ∨ first.outcome = .ok () := by
  constructor
  · intro kept
    cases later with
    | nil => exact .inl rfl
    | cons second rest =>
        obtain ⟨_, j, b, _, here, broken⟩ := kept 1 second rfl (silent second List.mem_cons_self).1
        cases j with
        | zero =>
            cases here
            exact .inr (breaks.mp broken)
        | succ j =>
            have member : b ∈ second :: rest := List.mem_of_getElem? here
            exact absurd broken (not_breaks (by rw [(silent b member).2]))
  · rintro (rfl | well)
    · intro k a here well
      cases k with
      | zero =>
          cases here
          exact ⟨⟨0, first, Nat.le_refl 0, rfl, records well⟩, 0, first, Nat.le_refl 0, rfl, breaks.mpr well⟩
      | succ k => cases here
    · intro k a _ _
      exact ⟨⟨0, first, Nat.zero_le k, rfl, records well⟩, 0, first, Nat.zero_le k, rfl, breaks.mpr well⟩

theorem calls_first {server : Server α} {o : Outside (State α)} {first : Attempt α} {later : List (Attempt α)}
    (closes : Calls server id o (first :: later)) (found : o.lib.sessions[id]? = some s) (fresh : s.closing = false) :
    (∃ linked, First server { s with linked := linked } first) ∧ ∀ a ∈ later, a.outcome = .ok () ∧ a.after = a.before := by
  cases closes with
  | call spared rest =>
      obtain ⟨linked, still⟩ := spared s found
      obtain ⟨how, left, leaves, begun⟩ := closeSession_first server still fresh
      exact ⟨⟨linked, how⟩, calls_begun rest leaves begun⟩

theorem calls_noted {o : Outside (State (Noted π))} {calls : List (Attempt (Noted π))} (closes : Calls (noted server) id o calls) :
    ∀ a ∈ calls, closeSession server id (plain a.before) = (a.outcome, plain a.after) := by
  induction closes with
  | stop o => simp
  | call spared rest ih =>
      intro a member
      rcases List.mem_cons.mp member with rfl | listed
      · exact closeSession_noted server id _
      · exact ih a listed

theorem promise_kept_iff (server : Server π) (id : SessionId) (host : String) (port : Nat) (policy : KeyPolicy)
    {store : KnownHosts} {fs : FileSystem} {path : String} (loaded : (KnownHosts.load fs path).1 = .ok store)
    (operator : Prompter) (keys : List PublicKey) {o : Outside (State (Noted π))} {linked : Bool}
    (opened : o.lib.sessions[id]? =
      some ⟨link, (Gate.run host port policy store operator keys).gate, false, linked⟩)
    {calls : List (Attempt (Noted π))} (closes : Calls (noted server) id o calls) :
    (Kept (Gate.run host port policy store operator keys).gate link calls ↔
      calls.length ≤ 1 ∨ ∃ first, calls.head? = some first ∧ first.outcome = .ok ()) ∧
    (∀ a ∈ calls.tail, a.outcome = .ok () ∧ a.after = a.before) ∧
    ∀ a ∈ calls, closeSession server id (plain a.before) = (a.outcome, plain a.after) := by
  cases calls with
  | nil => exact ⟨by simp [Kept], by simp, by simp⟩
  | cons first later =>
      obtain ⟨⟨linked, how⟩, silent⟩ := calls_first closes opened rfl
      have unsaved : (Gate.run host port policy store operator keys).gate.Unsaved :=
        Gate.run_unsaved (KnownHosts.load_clean loaded).2 operator keys
      have kept := kept_iff how.breaks_iff (how.records unsaved) silent
      refine ⟨?_, silent, calls_noted closes⟩
      rw [kept]
      cases later with
      | nil => simp
      | cons second rest => simp

def webKey : PublicKey := ⟨"ssh-ed25519", [1, 2, 3]⟩

def webGate (path : String) : Gate := (Gate.run "web01" 22 ⟨true, true, false⟩ ⟨path, [], []⟩ ⟨[], []⟩ [webKey]).gate

def scripted : Server (Noted ScriptedServer.State) := noted ScriptedServer.server

def webServer : ScriptedServer.State := .initial ⟨[webKey], some "pw", [], none, [], [], []⟩ ⟨[]⟩ []

def connected (path : String) (fs : FileSystem) : Outside (State (Noted ScriptedServer.State)) where
  lib := { State.initial ⟨webServer, []⟩ with sessions := [⟨0, webGate path, false, true⟩] }
  files := fs
  operator := ⟨[], []⟩
  log := []

theorem spares_self {o : Outside (State π)} : Spares id o o := fun s found => ⟨s.linked, found⟩

theorem calls_twice (server : Server π) (id : SessionId) (o : Outside (State π)) :
    Calls server id o [attempt server id o, attempt server id (attempt server id o).after] :=
  .call spares_self (.call spares_self (.stop _))

theorem promise_kept_saved :
    (KnownHosts.load FileSystem.empty "known_hosts").1 = .ok ⟨"known_hosts", [], []⟩ ∧
    ∃ first second, Calls scripted 0 (connected "known_hosts" FileSystem.empty) [first, second] ∧
      first.outcome = .ok () ∧ Kept (webGate "known_hosts") 0 [first, second] := by
  have absent : FileSystem.empty.exists? "known_hosts" = false := by decide +kernel
  have loaded : (KnownHosts.load FileSystem.empty "known_hosts").1 = .ok ⟨"known_hosts", [], []⟩ := by
    simp [KnownHosts.load, absent]
  have well : (attempt scripted 0 (connected "known_hosts" FileSystem.empty)).outcome = .ok () := by
    rfl
  have closes := calls_twice scripted 0 (connected "known_hosts" FileSystem.empty)
  have opened : (connected "known_hosts" FileSystem.empty).lib.sessions[0]? = some ⟨0, webGate "known_hosts", false, true⟩ :=
    rfl
  obtain ⟨kept, _, _⟩ := promise_kept_iff ScriptedServer.server 0 "web01" 22 ⟨true, true, false⟩ loaded ⟨[], []⟩ [webKey]
    opened closes
  exact ⟨loaded, _, _, closes, well, kept.mpr (.inr ⟨_, rfl, well⟩)⟩

-- The file of known hosts would have to be in a directory whose name is that of a file.
def barred : FileSystem := FileSystem.empty.install "f" (some [120])

theorem failed_save_forgotten :
    (KnownHosts.load barred "f/known_hosts").1 = .ok ⟨"f/known_hosts", [], []⟩ ∧
    (webGate "f/known_hosts").trusted ≠ [] ∧
    ∃ first second, Calls scripted 0 (connected "f/known_hosts" barred) [first, second] ∧
      first.outcome = .error (.io .alreadyExists) ∧ second.outcome = .ok () ∧
      second.after.files.exists? "f/known_hosts" = false ∧ second.after.lib.server.broken = [] ∧
      ¬ Kept (webGate "f/known_hosts") 0 [first, second] := by
  have absent : barred.exists? "f/known_hosts" = false := by decide +kernel
  have loaded : (KnownHosts.load barred "f/known_hosts").1 = .ok ⟨"f/known_hosts", [], []⟩ := by
    simp [KnownHosts.load, absent]
  have failed : (attempt scripted 0 (connected "f/known_hosts" barred)).outcome = .error (.io .alreadyExists) := by
    rfl
  have closes := calls_twice scripted 0 (connected "f/known_hosts" barred)
  have trusted : (webGate "f/known_hosts").trusted ≠ [] := by
    intro nothing
    have counted := congrArg List.length nothing
    exact absurd counted (by decide +kernel)
  have opened : (connected "f/known_hosts" barred).lib.sessions[0]? = some ⟨0, webGate "f/known_hosts", false, true⟩ := rfl
  obtain ⟨⟨linked, how⟩, silent⟩ := calls_first closes opened rfl
  have well := silent _ List.mem_cons_self
  have left : (attempt scripted 0 (connected "f/known_hosts" barred)).after.files = barred := rfl
  have unbroken : (attempt scripted 0 (connected "f/known_hosts" barred)).after.lib.server.broken = [] := rfl
  refine ⟨loaded, trusted, _, _, closes, failed, well.1, ?_, ?_, ?_⟩
  · rw [well.2]
    exact (congrArg (FileSystem.exists? · "f/known_hosts") left).trans absent
  · rw [well.2]
    exact unbroken
  · intro kept
    have unsaved : (webGate "f/known_hosts").Unsaved := Gate.run_unsaved rfl ⟨[], []⟩ [webKey]
    rcases (kept_iff how.breaks_iff (how.records unsaved) silent).mp kept with alone | success
    · cases alone
    · rw [failed] at success
      cases success

end Promise

end RemoteExec.Client

import RemoteExec.Client.Library
import RemoteExec.Proofs.Client.Closing
import RemoteExec.Proofs.Client.Listening
import RemoteExec.Proofs.Session.Frames

namespace RemoteExec

namespace Authentication

variable {π : Type} {respond : Responder π} {Q : π → Prop}

def Login.Has (Q : π → Prop) (l : Login π) : Prop := Q l.server

theorem pure_keeps {α : Type} (x : α) : Leads (Login.Has Q) (pure x : Attempt π α) (Login.Has Q) := fun _ holds => holds

theorem tell_keeps (e : Event) : Leads (Login.Has Q) (tell e) (Login.Has Q) := fun _ holds => holds

theorem ask_keeps (responds : ∀ request p, Q p → Q (respond request p).2) (request : AuthRequest) :
    Leads (Login.Has Q) (ask respond request) (Login.Has Q) := fun l holds => responds request l.server holds

theorem tryKey_keeps (responds : ∀ request p, Q p → Q (respond request p).2) (r : Request) (key : PublicKey) :
    Leads (Login.Has Q) (tryKey respond r key) (Login.Has Q) := by
  unfold tryKey
  cases heldBack r key with
  | some list => exact (tell_keeps _).keep fun _ => pure_keeps false
  | none => exact (tell_keeps _).keep fun _ => (ask_keeps responds _).keep fun _ => pure_keeps _

theorem either_keeps {α : Type} (taken : Bool) {won lost : Attempt π α} (wins : Leads (Login.Has Q) won (Login.Has Q))
    (loses : Leads (Login.Has Q) lost (Login.Has Q)) : Leads (Login.Has Q) (if taken then won else lost) (Login.Has Q) := by
  cases taken with
  | true => exact wins
  | false => exact loses

theorem told_keeps (text : String) : Leads (Login.Has Q) (do info text; return true : Attempt π Bool) (Login.Has Q) :=
  (tell_keeps _).keep fun _ => pure_keeps true

theorem explicitKey_keeps (responds : ∀ request p, Q p → Q (respond request p).2) (r : Request) :
    Leads (Login.Has Q) (explicitKey respond r) (Login.Has Q) := by
  unfold explicitKey
  cases r.privateKey with
  | none => exact pure_keeps false
  | some content =>
      dsimp only
      cases PrivateKey.read content.lossy r.password with
      | error e => exact fun _ holds => holds
      | ok key => exact (tryKey_keeps responds r key).keep fun taken => either_keeps taken (told_keeps _) (pure_keeps false)

theorem foundKeys_keeps (responds : ∀ request p, Q p → Q (respond request p).2) (r : Request) (fs : FileSystem)
    (paths : List String) : Leads (Login.Has Q) (foundKeys respond r fs paths) (Login.Has Q) := by
  induction paths with
  | nil => exact pure_keeps false
  | cons path rest ih =>
      unfold foundKeys
      cases loadIdentity fs path r.password with
      | mk found events =>
          refine Leads.keep (fun _ holds => holds) fun _ => ?_
          cases found with
          | none => exact ih
          | some key => exact (tryKey_keeps responds r key).keep fun taken => either_keeps taken (told_keeps _) ih

theorem answerRounds_keeps (responds : ∀ request p, Q p → Q (respond request p).2) (r : Request) (password : String)
    (rounds : Nat) (verdict : Verdict) :
    Leads (Login.Has Q) (answerRounds respond r password rounds verdict) (Login.Has Q) := by
  induction rounds generalizing verdict with
  | zero => exact (tell_keeps _).keep fun _ => pure_keeps false
  | succ rounds ih =>
      cases verdict with
      | success => exact pure_keeps true
      | failure => exact pure_keeps false
      | questions prompts => exact (tell_keeps _).keep fun _ => (ask_keeps responds _).keep fun next => ih next

theorem withPassword_keeps (responds : ∀ request p, Q p → Q (respond request p).2) (r : Request) :
    Leads (Login.Has Q) (withPassword respond r) (Login.Has Q) := by
  unfold withPassword
  cases r.password with
  | none => exact pure_keeps false
  | some password =>
      have questioned : Leads (Login.Has Q) (interactive respond r password) (Login.Has Q) :=
        (ask_keeps responds _).keep fun verdict => answerRounds_keeps responds r password maxRounds verdict
      refine (tell_keeps _).keep fun _ => ((ask_keeps responds _).keep fun _ => pure_keeps _).keep fun taken => ?_
      refine either_keeps taken (told_keeps _) (questioned.keep fun taken => ?_)
      exact either_keeps taken (told_keeps _) (pure_keeps false)

theorem run_keeps (responds : ∀ request p, Q p → Q (respond request p).2) (r : Request) (fs : FileSystem)
    (paths : List String) : Leads (Login.Has Q) (run respond r fs paths) (Login.Has Q) := by
  have inside : Leads (Login.Has Q) (pure () : Attempt π Unit) (Login.Has Q) := pure_keeps ()
  have refused : Leads (Login.Has Q)
      (throw (Failure.authentication ("all authentication methods failed for user '" ++ r.user ++ "'")) : Attempt π Unit)
      (Login.Has Q) := fun _ holds => holds
  have last := (withPassword_keeps responds r).keep fun taken => either_keeps taken inside refused
  have found := (foundKeys_keeps responds r fs paths).keep fun taken => either_keeps taken inside last
  exact (explicitKey_keeps responds r).keep fun taken => either_keeps taken inside (either_keeps r.lookForKeys found last)

end Authentication

namespace Connection

variable {σ : Type} {Q : σ → Prop} {lib : Library σ} {c : Connection} {channel : ChannelId} {command : String}
  {o p : Outside σ} {r : CommandResult}

structure Returns (lib : Library σ) (channel : ChannelId) (Q : σ → Prop) (W : Int → σ → Prop) : Prop where
  exec : ∀ {command o r p}, Q o.lib → lib.exec channel command o = (.ok r, p) → W r.returnCode p.lib
  finish : ∀ {timeout o exit p}, Q o.lib → lib.finish channel timeout o = (.ok (some exit), p) →
    W (returnCode exit.exitStatus) p.lib

variable {W : Int → σ → Prop}

theorem negotiate_returns (calls : lib.KeepsOn Q channel) (returns : Returns lib channel Q W) {e : Escalation}
    {timeout : Duration} (before : Q o.lib) (ran : negotiate lib e timeout channel command o = (.ok r, p)) :
    W r.returnCode p.lib := by
  obtain ⟨_, running, started, ran⟩ := run_bind_ok ran
  obtain ⟨_, _, got, ran⟩ := run_bind_ok ran
  cases got
  obtain ⟨watched, seen, watching, ran⟩ := run_bind_ok ran
  obtain ⟨output, answered, answering, ran⟩ := run_bind_ok ran
  obtain ⟨exit, ended, finished, ran⟩ := run_bind_ok ran
  have running_has : Q running.lib := (calls.start _).after started before
  have seen_has : Q seen.lib := (watch_keeps calls e _ _ _).after watching running_has
  have answered_has : Q answered.lib := (answerWatch_keeps calls e watched).after answering seen_has
  cases exit with
  | none => cases ran
  | some exit =>
      cases ran
      exact returns.finish answered_has finished

theorem runOn_returns_plain (calls : lib.KeepsOn Q channel) (returns : Returns lib channel Q W) (before : Q o.lib)
    (ran : c.runOn lib channel command false o = (.ok r, p)) : W r.returnCode p.lib := by
  unfold runOn at ran
  rw [Bool.and_false, if_neg Bool.false_ne_true] at ran
  obtain ⟨_, told, telling, ran⟩ := run_bind_ok ran
  have told_has : Q told.lib := (Op.tell_keeps _ _).after telling before
  cases asks : c.escalation.filter (·.expectsPrompt) with
  | none =>
      rw [asks] at ran
      exact returns.exec told_has ran
  | some e =>
      rw [asks] at ran
      exact negotiate_returns calls returns told_has ran

theorem runOn_returns (calls : lib.KeepsOn Q channel) (returns : Returns lib channel Q W) {sudoable : Bool}
    (before : Q o.lib) (ran : c.runOn lib channel command sudoable o = (.ok r, p)) : W r.returnCode p.lib := by
  have plain {q : Outside σ} : c.runOn lib channel command false q = (.ok r, p) → Q q.lib → W r.returnCode p.lib :=
    fun ran before => runOn_returns_plain calls returns before ran
  unfold runOn at ran plain
  rw [Bool.and_false, if_neg Bool.false_ne_true] at plain
  by_cases asked : (c.options.pty && sudoable) = true
  · rw [if_pos asked] at ran
    obtain ⟨_, opened, requested, ran⟩ := run_bind_ok ran
    exact plain ran (calls.requestPty.after requested before)
  · rw [if_neg asked] at ran
    exact plain ran before

end Connection

namespace Client

variable {π α : Type}

structure Spoken (π : Type) where
  state : π
  messages : List Message

namespace Spoken

def under (act : StateM π α) : StateM (Spoken π) α := fun p => ((act p.state).1, { p with state := (act p.state).2 })

def answering (act : StateM π (List Message)) : StateM (Spoken π) (List Message) :=
  fun p => ((act p.state).1, ⟨(act p.state).2, p.messages ++ (act p.state).1⟩)

end Spoken

open Spoken in
def spoken (server : Server π) : Server (Spoken π) where
  connect := fun target timeout => under (server.connect target timeout)
  hostKeys := fun p => server.hostKeys p.state
  authenticate := fun link request => under (server.authenticate link request)
  openChannel := fun link => under (server.openChannel link)
  requestPty := fun line => answering (server.requestPty line)
  run := fun line command => answering (server.run line command)
  input := fun line data => answering (server.input line data)
  closeChannel := fun line => under (server.closeChannel line)
  startFiles := fun line => under (server.startFiles line)
  createFile := fun path => under (server.createFile path)
  writeFile := fun path content => under (server.writeFile path content)
  readFile := fun p path => server.readFile p.state path
  unsent := fun p line => server.unsent p.state line
  disconnect := fun link => under (server.disconnect link)

-- The exit status that a server has reported: the last one before it closed the channel. It is read from all that was said,
-- so it speaks of one command, as a run with one channel has.
def reported (ms : List Message) : Option Nat := Channel.lastStatus (ms.takeWhile (· ≠ .close))

namespace Channel

theorem reported_open {ms : List Message} (still : .close ∉ ms) : reported ms = lastStatus ms := by
  rw [reported, List.takeWhile_eq_self_iff.mpr]
  intro m listed
  exact decide_eq_true fun same => still (same ▸ listed)

theorem reported_closed {front : List Message} (closes : .close ∈ front) (back : List Message) :
    reported (front ++ back) = reported front := by
  rw [reported, reported, List.takeWhile_append, if_neg]
  intro whole
  have all := List.takeWhile_eq_self_iff.mp ((List.takeWhile_prefix _).eq_of_length whole)
  simpa using all _ closes

theorem reported_concat {ms : List Message} (still : .close ∉ ms) (m : Message) :
    reported (ms ++ [m]) = m.status?.or (reported ms) := by
  by_cases last : m = .close
  · subst last
    have all : ∀ m ∈ ms, decide (m ≠ .close) = true := fun m listed => decide_eq_true fun same => still (same ▸ listed)
    rw [reported_open still, reported, List.takeWhile_append_of_pos all]
    simp [Message.status?]
  · rw [reported_open, reported_open still, lastStatus_append]
    simp [still, Ne.symm last]

structure Heeds (sent : List Message) (c : Channel) : Prop where
  ended : c.ended = false
  quiet : c.closed = true → c.eof = true
  seen : ∃ seen, sent = seen ++ c.inbox ∧ c.exitStatus = reported seen ∧ (c.closed = true ↔ .close ∈ seen)

variable {sent : List Message} {c : Channel}

theorem heeds_fresh : Heeds [] fresh := ⟨rfl, fun closed => closed, [], rfl, rfl, by simp [fresh]⟩

theorem Heeds.status (heeds : Heeds sent c) (closed : c.closed = true) : c.exitStatus = reported sent := by
  obtain ⟨seen, split, status, closes⟩ := heeds.seen
  rw [split, reported_closed (closes.mp closed), status]

theorem Heeds.deliver (heeds : Heeds sent c) (ms : List Message) : Heeds (sent ++ ms) (c.deliver ms) := by
  obtain ⟨seen, split, status, closes⟩ := heeds.seen
  refine ⟨heeds.ended, heeds.quiet, seen, ?_, status, closes⟩
  rw [split, List.append_assoc]
  rfl

theorem Heeds.set_pending (heeds : Heeds sent c) (b : Bytes) : Heeds sent { c with pending := b } :=
  ⟨heeds.ended, heeds.quiet, heeds.seen⟩

theorem Heeds.note {m : Message} {rest : List Message} (heeds : Heeds sent { c with inbox := m :: rest })
    (listens : ¬ c.closed = true) : Heeds sent { c.note m with inbox := rest } := by
  obtain ⟨seen, split, status, closes⟩ := heeds.seen
  have still : .close ∉ seen := fun member => listens (closes.mpr member)
  refine ⟨(note_ended c m).trans heeds.ended, ?_, seen ++ [m], ?_, ?_, ?_⟩
  · intro closed
    obtain before | last := (note_closed c m).mp closed
    · exact absurd before listens
    · exact (note_eof c m).mpr (.inr (.inr last))
  · rw [split, List.append_assoc]
    rfl
  · rw [reported_concat still]
    exact (note_status c m).trans (congrArg _ status)
  · refine (note_closed c m).trans ?_
    simp [listens, still, eq_comm]

theorem Heeds.fill {ms : List Message} (heeds : Heeds sent { c with inbox := ms }) : Heeds sent (c.fill ms) := by
  induction ms generalizing c with
  | nil =>
      have lasts : ¬ c.ended = true := by simpa using heeds.ended
      rw [Channel.fill, if_neg lasts, ite_self]
      exact heeds
  | cons m rest ih =>
      by_cases waits : Waits c
      · have listens : ¬ c.closed = true := fun closed => by
          have gone := heeds.quiet closed
          rw [waits.2] at gone
          cases gone
        rw [fill_looks waits]
        exact ih ((heeds.note listens).set_pending _)
      · rw [fill_rests waits]
        exact heeds

theorem Heeds.receive (heeds : Heeds sent c) (limit : Nat) : Heeds sent (c.receive limit).2 := by
  have filled : Heeds sent (c.fill c.inbox) := Heeds.fill heeds
  by_cases waits : Waits (c.fill c.inbox)
  · rw [receive_waits waits]
    exact filled
  · rw [receive_gives waits]
    exact filled.set_pending _

theorem Heeds.drainFrom {ms : List Message} (heeds : Heeds sent { c with inbox := ms }) (out err : List Bytes) :
    Heeds sent (c.drainFrom ms out err).1 := by
  induction ms generalizing c out err with
  | nil =>
      have lasts : ¬ (c.ended && !c.closed) = true := by simp [show c.ended = false from heeds.ended]
      rw [Channel.drainFrom, if_neg lasts]
      exact heeds
  | cons m rest ih =>
      by_cases closed : c.closed = true
      · rw [Channel.drainFrom, if_pos closed]
        exact heeds
      · rw [Channel.drainFrom, if_neg closed]
        exact ih (heeds.note closed) _ _

theorem Heeds.finish (heeds : Heeds sent c) :
    Heeds sent (c.finish).2 ∧ ∀ exit, (c.finish).1 = some exit → exit.exitStatus = reported sent := by
  have waiting : Heeds sent { { c with pending := [] } with inbox := c.inbox } := heeds.set_pending []
  have drained := waiting.drainFrom [c.pending] []
  rw [Channel.finish]
  cases ran : Channel.drainFrom { c with pending := [] } c.inbox [c.pending] [] with
  | mk c' outputs =>
      rw [ran] at drained
      dsimp only at drained ⊢
      by_cases closed : c'.closed = true
      · rw [if_pos closed]
        refine ⟨drained, fun exit given => ?_⟩
        cases given
        exact drained.status closed
      · rw [if_neg closed]
        exact ⟨drained, fun exit given => by cases given⟩

end Channel

section Silence

def Silent (channels : List (Line × Channel)) (sent : List Message) (s : State (Spoken π)) : Prop :=
  s.channels = channels ∧ s.server.messages = sent

variable {server : Server π} {env : Environment} {channels : List (Line × Channel)} {sent : List Message}

theorem atServer_silent (act : StateM π α) : Op.Keeps (Silent channels sent) (atServer (Spoken.under act)) :=
  fun _ silent => silent

theorem ofExcept_silent (e : Except Failure α) : Op.Keeps (Silent channels sent) (ofExcept e : Op (State (Spoken π)) α) := by
  intro o silent
  rw [run_ofExcept]
  exact silent

theorem tellAll_silent (events : List Event) :
    Op.Keeps (Silent channels sent) (tellAll events : Op (State (Spoken π)) Unit) :=
  fun _ silent => silent

theorem knownHosts_silent (env : Environment) (r : Request) :
    Op.Keeps (Silent channels sent) (knownHosts env r : Op (State (Spoken π)) KnownHosts) := by
  unfold knownHosts
  cases r.knownHostsFile <|> KnownHosts.defaultPath? env with
  | none => exact Op.throw_keeps _
  | some path =>
      refine Leads.keep (Op.pure_keeps path) fun path => Leads.keep Op.get_keeps fun o => ?_
      exact Leads.keep (tellAll_silent _) fun _ => ofExcept_silent _

theorem reach_silent (target : Target) (timeout : Duration) :
    Op.Keeps (Silent channels sent) (reach (spoken server) target timeout) := by
  unfold reach
  extract_lets rest
  have rest_silent : Op.Keeps (Silent channels sent) (rest ()) := by
    refine Leads.keep (atServer_silent _) fun answer => ?_
    cases answer with
    | ok link => exact Op.pure_keeps link
    | error fault =>
        cases fault with
        | failed why => exact Op.throw_keeps _
        | timeout => exact Leads.keep (Op.tell_keeps _ _) fun _ => Op.throw_keeps _
  cases target.proxyCommand with
  | none => exact rest_silent
  | some command => exact Leads.keep (Op.tell_keeps _ _) fun _ => rest_silent

theorem letThrough_silent (gate : Gate) (key : PublicKey) :
    Op.Keeps (Silent channels sent) (letThrough gate key : Op (State (Spoken π)) Gate) := by
  refine Leads.keep Op.get_keeps fun o => ?_
  exact Leads.keep (fun _ silent => silent) fun _ => ofExcept_silent _

theorem logIn_silent (r : Request) (link : LinkId) (paths : List String) :
    Op.Keeps (Silent channels sent) (logIn (spoken server) r link paths) := by
  intro o silent
  have responds : ∀ request (p : Spoken π), p.messages = sent →
      ((spoken server).authenticate link request p).2.messages = sent := fun _ _ same => same
  have kept := Authentication.run_keeps responds r o.files paths ⟨o.lib.server, [], []⟩ silent.2
  have rest (outcome : Except Failure Unit) (login : Authentication.Login (Spoken π)) (same : login.server.messages = sent) :
      Silent channels sent
        (ofExcept outcome { o.tell login.log with lib := { o.lib with server := login.server } }).2.lib := by
    rw [run_ofExcept]
    exact ⟨silent.1, same⟩
  exact rest _ _ kept

theorem settle_silent (r : Request) (target : Target) (gate : Gate) (accepted : List String) (link : LinkId) :
    Op.Keeps (Silent channels sent) (settle (spoken server) env r target gate accepted link) := by
  have presents : Op.Keeps (Silent channels sent) (presented (spoken server) accepted) :=
    Leads.keep (fun _ silent => silent) fun _ => ofExcept_silent _
  refine Leads.keep presents fun key => Leads.keep (letThrough_silent gate key) fun gate => ?_
  exact Leads.keep (logIn_silent r link _) fun _ => Op.pure_keeps gate

theorem establish_silent (r : Request) : Op.Keeps (Silent channels sent) (establish (spoken server) env r) := by
  refine Leads.keep Op.get_keeps fun o => Leads.keep (tellAll_silent _) fun _ => ?_
  refine Leads.keep (ofExcept_silent _) fun target => Leads.keep (Op.tell_keeps _ _) fun _ => ?_
  refine Leads.keep (knownHosts_silent env r) fun store => Leads.keep (tellAll_silent _) fun _ => ?_
  refine Leads.keep (reach_silent target r.timeout) fun link => ?_
  refine Leads.keep (Leads.attemptOp (settle_silent r target _ _ link)) fun outcome => ?_
  cases outcome with
  | error e => exact Leads.keep (atServer_silent _) fun _ => Op.throw_keeps e
  | ok gate =>
      refine Leads.keep (Op.tell_keeps _ _) fun _ => Leads.keep (fun _ silent => silent) fun s => ?_
      exact Leads.keep (fun _ silent => silent) fun _ => Op.pure_keeps _

theorem openLine_silent (session : SessionId) : Op.Keeps (Silent channels sent) (openLine (spoken server) session) := by
  refine Leads.keep (fun _ silent => silent) fun s => ?_
  cases s.sessions[session]? with
  | none => exact Op.throw_keeps _
  | some opened =>
      dsimp only
      cases opened.linked with
      | false => exact Op.throw_keeps _
      | true =>
          refine Leads.keep (atServer_silent _) fun answer => ?_
          cases answer with
          | ok line => exact Op.pure_keeps line
          | error why => exact Op.throw_keeps _

end Silence

section Attention

def Attends (id : ChannelId) (s : State (Spoken π)) : Prop :=
  ∃ line c, s.channels[id]? = some (line, c) ∧ Channel.Heeds s.server.messages c

variable {server : Server π} {env : Environment} {id : ChannelId} {line : Line} {c : Channel}

theorem run_channelAt {o : Outside (State π)} (found : o.lib.channels[id]? = some (line, c)) :
    channelAt id o = (.ok (line, c), o) := by
  simp [channelAt, run_state, found]

theorem run_setChannel (id : ChannelId) (c : Channel) (o : Outside (State π)) :
    setChannel id c o =
      (.ok (), { o with lib := { o.lib with channels := o.lib.channels.modify id fun entry => (entry.1, c) } }) := rfl

theorem attends_set {s : State (Spoken π)} (found : s.channels[id]? = some (line, c)) {left : Channel} {p : Spoken π}
    (heeds : left.Heeds p.messages) :
    Attends id { s with server := p, channels := s.channels.modify id fun entry => (entry.1, left) } := by
  refine ⟨line, left, ?_, heeds⟩
  rw [List.getElem?_modify_eq, found]
  rfl

theorem newChannel_attends {session : SessionId} {o p : Outside (State (Spoken π))} (silent : Silent [] [] o.lib)
    (ran : newChannel (spoken server) session o = (.ok id, p)) : Attends id p.lib := by
  obtain ⟨line, between, opened, ran⟩ := run_bind_ok ran
  have still : Silent [] [] between.lib := (openLine_silent session).after opened silent
  cases ran
  refine ⟨line, Channel.fresh, ?_, ?_⟩
  · exact List.getElem?_concat_length
  · rw [still.2]
    exact Channel.heeds_fresh

theorem request_attends {act : Line → StateM (Spoken π) (List Message)}
    (answers : ∀ line p, (act line p).2.messages = p.messages ++ (act line p).1) :
    Op.Keeps (Attends id) (request id act) := by
  rintro o ⟨line, c, found, heeds⟩
  simp only [request, run_bind, run_channelAt found, run_atServer, run_setChannel]
  refine attends_set found ?_
  rw [answers]
  exact heeds.deliver _

theorem receive_attends (limit : Nat) : Op.Keeps (Attends id) (receive id limit : Op (State (Spoken π)) (Option Bytes)) := by
  rintro o ⟨line, c, found, heeds⟩
  simp only [receive, run_bind, run_channelAt found, run_setChannel]
  exact attends_set found (heeds.receive limit)

theorem run_finish {o : Outside (State π)} (found : o.lib.channels[id]? = some (line, c)) :
    finish id o = (.ok c.finish.1,
      { o with lib := { o.lib with channels := o.lib.channels.modify id fun entry => (entry.1, c.finish.2) } }) := by
  simp only [finish, run_bind, run_channelAt found, run_setChannel]
  rfl

theorem finish_attends : Op.Keeps (Attends id) (finish id : Op (State (Spoken π)) (Option ChannelExit)) := by
  rintro o ⟨line, c, found, heeds⟩
  rw [run_finish found]
  exact attends_set found heeds.finish.1

theorem finish_reports {o p : Outside (State (Spoken π))} {exit : ChannelExit} (attends : Attends id o.lib)
    (ran : finish id o = (.ok (some exit), p)) : exit.exitStatus = reported p.lib.server.messages := by
  obtain ⟨line, c, found, heeds⟩ := attends
  rw [run_finish found] at ran
  obtain ⟨finished, left⟩ := Prod.mk.inj ran
  rw [← left]
  exact heeds.finish.2 exit (Except.ok.inj finished)

theorem requestPty_attends : Op.Keeps (Attends id) (requestPty (spoken server) id) := by
  unfold requestPty
  exact request_attends fun _ _ => rfl

theorem start_attends (command : Bytes) : Op.Keeps (Attends id) (start (spoken server) id command) := by
  unfold start
  exact request_attends fun _ _ => rfl

theorem send_attends (data : Bytes) : Op.Keeps (Attends id) (send (spoken server) id data) := by
  unfold send
  exact request_attends fun _ _ => rfl

theorem exec_attends (command : String) : Op.Keeps (Attends id) (exec (spoken server) id command) := by
  refine Leads.keep (start_attends _) fun _ => Leads.keep finish_attends fun exit => ?_
  cases exit with
  | none => exact Op.throw_keeps _
  | some exit => exact Leads.keep (Op.tell_keeps _ _) fun _ => Op.pure_keeps _

theorem exec_reports {o p : Outside (State (Spoken π))} {command : String} {r : CommandResult} (attends : Attends id o.lib)
    (ran : exec (spoken server) id command o = (.ok r, p)) :
    r.returnCode = returnCode (reported p.lib.server.messages) := by
  obtain ⟨_, running, started, ran⟩ := run_bind_ok ran
  have still : Attends id running.lib := (start_attends _).after started attends
  obtain ⟨exit, finished, ended, ran⟩ := run_bind_ok ran
  cases exit with
  | none => cases ran
  | some exit =>
      obtain ⟨result, left⟩ := Prod.mk.inj ran
      rw [← Except.ok.inj result, ← left]
      exact congrArg returnCode (finish_reports (p := finished) still ended)

theorem library_attends (server : Server π) (env : Environment) (id : ChannelId) :
    (library (spoken server) env).KeepsOn (Attends id) id where
  requestPty := requestPty_attends
  start := start_attends
  send := send_attends
  receive := fun _ => receive_attends
  exec := exec_attends
  finish := fun _ => finish_attends

theorem library_returns (server : Server π) (env : Environment) (id : ChannelId) :
    Connection.Returns (library (spoken server) env) id (Attends id)
      fun code s => code = returnCode (reported s.server.messages) where
  exec := exec_reports
  finish := fun attends ran => congrArg returnCode (finish_reports attends ran)

theorem library_closing_silent {sent : List Message} :
    (library (spoken server) env).KeepsClosing fun s => s.server.messages = sent where
  sftp := fun _ _ said => said
  channel := by
    intro id
    refine Leads.keep (fun _ said => said) fun (line, c) => ?_
    dsimp only
    cases c.closed with
    | true => exact Op.pure_keeps ()
    | false => exact Leads.keep (fun _ said => said) fun _ _ said => said
  session := by
    intro id
    refine Leads.keep (fun _ said => said) fun s => ?_
    cases s.sessions[id]? with
    | none => exact Op.pure_keeps ()
    | some opened =>
        dsimp only
        cases opened.closing with
        | true => exact Op.pure_keeps ()
        | false =>
            refine Leads.keep Op.get_keeps fun o => ?_
            cases opened.save o.files with
            | mk saved rest =>
                obtain ⟨files, closing, events⟩ := rest
                refine Leads.keep (fun _ said => said) fun _ => Leads.keep (fun _ said => said) fun _ => ?_
                refine Leads.keep ?_ fun _ => Leads.keep (fun _ said => said) fun answer => ?_
                · cases saved with
                  | ok done => exact fun _ said => said
                  | error e => exact fun _ said => said
                · cases answer with
                  | error why => exact Op.throw_keeps _
                  | ok done => exact Leads.keep (fun _ said => said) fun _ => Op.tell_keeps _ _

end Attention

end Client
end RemoteExec

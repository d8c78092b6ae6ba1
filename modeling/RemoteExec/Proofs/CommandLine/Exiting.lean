import RemoteExec.CommandLine.Program
import RemoteExec.Proofs.Client.Statuses

namespace RemoteExec

open Client

variable {π : Type} {server : Server π} {env : Environment}

section Session

variable {c : Connection} {s t : Scene (State (Spoken π))}

def Unopened (s : Scene (State (Spoken π))) : Prop := Silent [] [] s.outside.lib ∧ s.held.channel = none

theorem ensureConnected_unopened : Leads Unopened (c.ensureConnected (library (spoken server) env)) Unopened := by
  have detached : Scene.Detached (fun s : Scene (State (Spoken π)) => Unopened s) :=
    ⟨fun _ _ unopened => unopened, fun _ _ unopened => unopened, fun _ _ _ unopened => unopened⟩
  have dials : ∀ r (o : Outside (State (Spoken π))), Silent [] [] o.lib →
      Silent [] [] ((library (spoken server) env).dial r o).2.lib := fun _ _ silent => silent
  have establishes : ∀ r, Op.Keeps (Silent [] []) ((library (spoken server) env).establish r) := establish_silent
  refine Connection.ensureConnected_leads detached c fun s unopened => ⟨?_, unopened.2⟩
  exact Connection.connectUncached_keeps dials establishes c s.outside unopened.1

theorem openChannel_attends {session : SessionId} {id : ChannelId} (unopened : Unopened s)
    (ran : Connection.openChannel (library (spoken server) env) session s = (.ok id, t)) :
    Attends id t.outside.lib ∧ t.held.channel = none := by
  simp only [Connection.openChannel, run_bind, Act.run_attempt, Act.run_ofOp] at ran
  cases opening : (library (spoken server) env).newChannel session s.outside with
  | mk outcome o =>
      rw [opening] at ran
      cases outcome with
      | error e => cases ran
      | ok id =>
          cases ran
          exact ⟨newChannel_attends unopened.1 opening, unopened.2⟩

theorem keepChannel_vacant {σ : Type} (lib : Library σ) (id : ChannelId) {s : Scene σ} (vacant : s.held.channel = none) :
    Connection.keepChannel lib id s = (.ok (), { s with held := { s.held with channel := some id } }) := by
  simp only [Connection.keepChannel, Act.held, run_bind, run_get, run_pure, Act.run_hold, vacant]

theorem exec_returns {command : String} {sudoable : Bool} {r : CommandResult} (unopened : Unopened s)
    (ran : c.exec (library (spoken server) env) command none sudoable s = (.ok r, t)) :
    r.returnCode = returnCode (reported t.outside.lib.server.messages) := by
  unfold Connection.exec at ran
  rw [if_neg (by simp)] at ran
  obtain ⟨session, connected, ensured, ran⟩ := run_bind_ok ran
  obtain ⟨id, opened, opening, ran⟩ := run_bind_ok ran
  obtain ⟨attends, vacant⟩ := openChannel_attends (ensureConnected_unopened.after ensured unopened) opening
  rw [run_bind, Act.run_attempt, Act.run_ofOp] at ran
  cases running : c.runOn (library (spoken server) env) id command sudoable opened.outside with
  | mk outcome o =>
      have kept := keepChannel_vacant (library (spoken server) env) id (s := { opened with outside := o }) vacant
      simp only [running, run_bind, kept] at ran
      cases outcome with
      | error e => cases ran
      | ok result =>
          have calls := library_attends server env id
          have returned := Connection.runOn_returns calls (library_returns server env id) attends running
          cases ran
          exact returned

end Session

namespace CommandLine

section Run

variable {c connection : Connection} {config : Config} {command nonce : String}

theorem perform_returns {s t : Scene (State (Spoken π))} {elevated : Option Sudo} {code : Int} {out err : Bytes}
    (task : config.task = .exec command) (unopened : Unopened s)
    (ran : perform (library (spoken server) env) c config elevated s = (.ok (code, out, err), t)) :
    code = returnCode (reported t.outside.lib.server.messages) := by
  simp only [perform, task] at ran
  obtain ⟨r, done, ran, given⟩ := run_bind_ok ran
  have returned := exec_returns unopened ran
  cases json : config.json with
  | true =>
      rw [json] at given
      cases given
      exact returned
  | false =>
      rw [json] at given
      cases given
      exact returned

def Said (sent : List Message) (_ : Cache) (l : State (Spoken π)) : Prop := l.server.messages = sent

theorem closeQuietly_said {sent : List Message} :
    Leads (Scene.Has (Said sent)) (closeQuietly (library (spoken server) env) c) (Scene.Has (Said sent)) := by
  have calls : ∀ cache, (library (spoken server) env).KeepsClosing (Said sent cache) := fun _ => library_closing_silent
  refine Leads.keep (Leads.attempt (Connection.close_leads calls c fun _ said => said)) fun outcome => ?_
  cases outcome with
  | ok done => exact Act.pure_keeps ()
  | error e => exact Act.tell_keeps _ _

def undertaken {σ : Type} (lib : Library σ) (connection : Connection) (config : Config) (nonce : String) (o : Outside σ) :
    Except Failure (Int × Bytes × Bytes) × Scene σ :=
  let elevated := config.become.map fun b => Sudo.make b.user b.password nonce
  let events := ⟨.info, "SSH Transport v1.0.0 starting..."⟩ ::
    (elevated.map fun s => (⟨.info, "Escalating to '" ++ s.user ++ "' with sudo"⟩ : Event)).toList
  perform lib { connection with escalation := elevated.map Sudo.escalation } config elevated
    ⟨o.tell events, Cache.empty, Held.nothing⟩

theorem undertaken_returns {o : Outside (State (Spoken π))} {code : Int} {out err : Bytes} {p : π}
    (fresh : o.lib = State.initial ⟨p, []⟩) (task : config.task = .exec command)
    (went : (undertaken (library (spoken server) env) connection config nonce o).1 = .ok (code, out, err)) :
    code = returnCode
      (reported (undertaken (library (spoken server) env) connection config nonce o).2.outside.lib.server.messages) := by
  refine perform_returns task ⟨?_, rfl⟩ (Prod.ext went rfl)
  exact ⟨congrArg State.channels fresh, congrArg (fun l => l.server.messages) fresh⟩

theorem execute_code {σ : Type} {lib : Library σ} {o : Outside σ} {code : Int} {out err : Bytes}
    (went : (undertaken lib connection config nonce o).1 = .ok (code, out, err)) :
    (execute lib connection config nonce o).1.code = exitCode code := by
  unfold undertaken at went
  unfold execute
  dsimp only at went ⊢
  generalize perform lib _ config _ _ = performed at went ⊢
  obtain ⟨outcome, scene⟩ := performed
  cases went
  dsimp only
  generalize closeQuietly lib _ scene = closed
  obtain ⟨_, left⟩ := closed
  rfl

theorem execute_said {o : Outside (State (Spoken π))} :
    (execute (library (spoken server) env) connection config nonce o).2.lib.server.messages =
      (undertaken (library (spoken server) env) connection config nonce o).2.outside.lib.server.messages :=
  closeQuietly_said _ rfl

theorem execute_returns {o : Outside (State (Spoken π))} {given : Int × Bytes × Bytes} {p : π}
    (fresh : o.lib = State.initial ⟨p, []⟩) (task : config.task = .exec command)
    (went : (undertaken (library (spoken server) env) connection config nonce o).1 = .ok given) :
    (execute (library (spoken server) env) connection config nonce o).1.code = exitCode (returnCode
      (reported (execute (library (spoken server) env) connection config nonce o).2.lib.server.messages)) := by
  obtain ⟨code, out, err⟩ := given
  rw [execute_code went, execute_said, ← undertaken_returns fresh task went]

-- Eight bits are kept of a status. One above the range of a return code counts as the largest.
theorem exitCode_returnCode (status : Option Nat) :
    exitCode (returnCode status) =
      match status with
      | some n => if n ≤ 2147483647 then n % 256 else 255
      | none => 255 := by
  cases status with
  | none => rfl
  | some n =>
      by_cases fits : n ≤ 2147483647
      · simp only [returnCode, if_pos fits, exitCode]
        omega
      · simp only [returnCode, if_neg fits]
        rfl

def Wraps (status : Option Nat) : Prop := ∃ n, status = some n ∧ 0 < n ∧ n ≤ 2147483647 ∧ 256 ∣ n

theorem exitCode_truthful_iff (status : Option Nat) :
    (exitCode (returnCode status) = 0 ↔ status = some 0) ↔ ¬ Wraps status := by
  rw [exitCode_returnCode]
  cases status with
  | none => simp [Wraps]
  | some n =>
      have wraps : Wraps (some n) ↔ 0 < n ∧ n ≤ 2147483647 ∧ 256 ∣ n := by simp [Wraps]
      rw [wraps, Option.some.injEq]
      by_cases fits : n ≤ 2147483647
      · simp only [if_pos fits]
        omega
      · simp only [if_neg fits]
        omega

theorem success_truthful_iff (server : Server π) {hasLibrary : Bool} {words : List String} {a : Arguments} {p : π}
    {o after : Outside (State (Spoken π))} {printed : Printed} (fresh : o.lib = State.initial ⟨p, []⟩)
    (parsed : Arguments.parse env words = .ok a) (configured : Config.ofArguments o.files a = .ok config)
    (task : config.task = .exec command)
    {given : Int × Bytes × Bytes} (went : (undertaken (library (spoken server) env)
      { Connection.make config.options 0 env with hasLibrary := hasLibrary } config nonce o).1 = .ok given)
    (ran : runProgram (library (spoken server) env) hasLibrary env nonce words o = (printed, after)) :
    (printed.code = 0 ↔ reported after.lib.server.messages = some 0) ↔ ¬ Wraps (reported after.lib.server.messages) := by
  have executed := execute_returns fresh task went
  simp only [runProgram, parsed, configured] at ran
  rw [ran] at executed
  rw [executed]
  exact exitCode_truthful_iff _

end Run

namespace Exiting

def replying (status : Nat) : Server Unit where
  connect := fun _ _ => pure (.ok 0)
  hostKeys := fun _ => [⟨"ssh-ed25519", []⟩]
  authenticate := fun _ _ => pure (.ok .success)
  openChannel := fun link => pure (.ok ⟨link, 0⟩)
  requestPty := fun _ => pure []
  run := fun _ _ => pure [.exitStatus status, .close]
  input := fun _ _ => pure []
  closeChannel := fun _ => pure ()
  startFiles := fun _ => pure ()
  createFile := fun _ => pure (.ok ())
  writeFile := fun _ _ => pure ()
  readFile := fun _ _ => .ok []
  unsent := fun _ _ => 0
  disconnect := fun _ => pure (.ok ())

def words : List String :=
  ["--host", "web", "--user", "bob", "--password", "pw", "--no-host-key-checking", "--no-look-for-keys", "exec", "true"]

def config : Config where
  options := { Options.ofAddr "web" with
    remoteUser := some "bob", password := some "pw", hostKeyChecking := false, lookForKeys := false }
  task := .exec "true"
  become := none
  json := false

def client (status : Nat) : Library (State (Spoken Unit)) := library (spoken (replying status)) ⟨[]⟩

def outside : Outside (State (Spoken Unit)) := ⟨State.initial ⟨(), []⟩, FileSystem.empty, ⟨[], []⟩, []⟩

def run (status : Nat) : Printed × Outside (State (Spoken Unit)) :=
  runProgram (client status) true ⟨[]⟩ "" words outside

theorem words_configure :
    ∃ a, Arguments.parse ⟨[]⟩ words = .ok a ∧ Config.ofArguments outside.files a = .ok config := by
  have both : (Arguments.parse ⟨[]⟩ words).toOption.map (Config.ofArguments outside.files) = some (.ok config) := by
    decide +kernel
  cases parsed : Arguments.parse ⟨[]⟩ words with
  | error e =>
      rw [parsed] at both
      cases both
  | ok a =>
      rw [parsed] at both
      exact ⟨a, rfl, Option.some.inj both⟩

theorem failing_command_told : reported (run 3).2.lib.server.messages = some 3 ∧ (run 3).1.code ≠ 0 := by
  obtain ⟨a, parsed, configured⟩ := words_configure
  have went : (undertaken (client 3) (Connection.make config.options 0 ⟨[]⟩) config "" outside).1 = .ok (3, [], []) := by
    decide +kernel
  have told : reported (run 3).2.lib.server.messages = some 3 := by decide +kernel
  have kept : ¬ Wraps (some 3) := by
    rintro ⟨n, same, _, _, whole⟩
    cases same
    exact absurd whole (by decide)
  cases ran : run 3 with
  | mk printed after =>
      rw [ran] at told
      have truthful := success_truthful_iff (replying 3) (o := outside) rfl parsed configured rfl went ran
      rw [told] at truthful
      refine ⟨told, fun zero => ?_⟩
      cases (truthful.mpr kept).mp zero

theorem failing_command_succeeds :
    (undertaken (client 256) (Connection.make config.options 0 ⟨[]⟩) config "" outside).1 = .ok (256, [], []) ∧
      reported (run 256).2.lib.server.messages = some 256 ∧ (run 256).1.code = 0 := by
  decide +kernel

end Exiting
end CommandLine
end RemoteExec

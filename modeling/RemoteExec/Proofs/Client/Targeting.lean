import RemoteExec.Client.Library
import RemoteExec.Proofs.ClientConfig.Precedence
import RemoteExec.Proofs.Session.Frames
import RemoteExec.ScriptedServer.Basic

namespace RemoteExec

section Requests

variable {σ : Type} {lib : Library σ} {c : Connection} {o t : Outside σ} {r : Request}

theorem Connection.prepare_request (ran : c.prepare lib o = (.ok r, t)) :
    ∃ user proxy key, r = c.requestOf user proxy key := by
  obtain ⟨told, prepared⟩ := prepare_reads lib c o
  have asked : c.asks lib o.files = .ok r := congrArg Prod.fst (prepared.symm.trans ran)
  obtain ⟨_, _, user, key, _, _, same⟩ := asks_ok_iff.mp asked
  exact ⟨user, _, key, same.symm⟩

theorem Connection.begin_request (ran : c.begin lib o = (.ok r, t)) :
    ∃ user proxy key, r = c.requestOf user proxy key := by
  obtain ⟨asked, _, prepared, ran⟩ := run_bind_ok ran
  obtain ⟨_, _, _, ran⟩ := run_bind_ok ran
  cases ran
  exact prepare_request prepared

end Requests

namespace Target

variable {fs : FileSystem} {path content : String}

def Holds (fs : FileSystem) (path content : String) : Prop :=
  fs.readText path = .ok content ∨ ∃ e, fs.readText path = .error e ∧ e.kind = .notFound ∧ content = ""

theorem load_holds (holds : Holds fs path content) :
    ∃ events, ClientConfig.load fs path = (.ok (ClientConfig.parse content), events) := by
  rw [ClientConfig.load]
  obtain found | ⟨e, missing, kind, rfl⟩ := holds
  · rw [found]
    exact ⟨_, rfl⟩
  · rw [missing]
    exact ⟨_, if_pos kind⟩

theorem resolve_file (env : Environment) {r : Request} (named : r.configFile = some path)
    (holds : Holds fs path content) :
    ∃ events, resolve env fs r =
      (.ok (apply r (ClientConfig.resolve env (ClientConfig.parse content) r.host)), events) := by
  obtain ⟨events, loaded⟩ := load_holds holds
  rw [resolve, named]
  dsimp only
  rw [loaded]
  exact ⟨_, rfl⟩

theorem resolve_fileless (env : Environment) (fs : FileSystem) {r : Request} (unnamed : r.configFile = none) :
    resolve env fs r = (.ok ⟨r.host, r.port, [], r.proxyCommand⟩, []) := by
  rw [resolve, unnamed]

theorem port_given {r : Request} {s : HostSettings} (other : r.port ≠ Options.defaultPort) :
    (apply r s).port = r.port := if_neg other

theorem port_standard {r : Request} {s : HostSettings} (standard : r.port = Options.defaultPort) :
    (apply r s).port = s.port.getD Options.defaultPort := by
  rw [← standard]
  exact if_pos standard

-- Of the request that a connection makes before its library connects. The port that the options give is kept, but for
-- the standard one where the file names another: a request does not tell it from no port.
theorem explicit_port_kept_iff {σ : Type} {lib : Library σ} {c : Connection} {o t : Outside σ} {r : Request}
    (asked : c.begin lib o = (.ok r, t)) (env : Environment) (fs : FileSystem) :
    (∀ path content, c.options.configFile = some path → Holds fs path content → ∃ target events,
      resolve env fs r = (.ok target, events) ∧
      (∀ port, c.options.port = some port → (target.port = port ↔ port ≠ 22 ∨
        (ClientConfig.resolve env (ClientConfig.parse content) c.options.remoteAddr.lowercase).port.getD 22 = 22)) ∧
      (c.options.port.getD 22 = 22 → target.port =
        (ClientConfig.resolve env (ClientConfig.parse content) c.options.remoteAddr.lowercase).port.getD 22)) ∧
    (c.options.configFile = none → ∃ target, resolve env fs r = (.ok target, []) ∧
      target.port = c.options.port.getD 22) := by
  obtain ⟨user, proxy, key, rfl⟩ := Connection.begin_request asked
  have asked_for : (c.requestOf user proxy key).port = c.options.port.getD 22 := rfl
  constructor
  · intro path content named holds
    obtain ⟨events, resolved⟩ := resolve_file env (r := c.requestOf user proxy key) named holds
    refine ⟨_, events, resolved, fun port given => ?_, fun standard => port_standard (asked_for.trans standard)⟩
    rw [given, Option.getD_some] at asked_for
    by_cases standard : port = 22
    · rw [port_standard (asked_for.trans standard), standard]
      exact ⟨Or.inr, fun kept => kept.resolve_left fun other => other rfl⟩
    · rw [port_given fun same => standard (asked_for.symm.trans same)]
      exact ⟨fun _ => Or.inl standard, fun _ => asked_for⟩
  · intro unnamed
    exact ⟨_, resolve_fileless env fs (r := c.requestOf user proxy key) unnamed, asked_for⟩

def configured : FileSystem := FileSystem.empty.install "config" (some (Bytes.ofString "Port 2222\n"))

def ported (port : Nat) : Connection :=
  Connection.make
    { Options.ofAddr "web01" with remoteUser := some "bob", port := some port, configFile := some "config" } 0 ⟨[]⟩

def awaiting : Outside (Client.State ScriptedServer.State) where
  lib := Client.State.initial (.initial ⟨[], none, [], none, [], [], []⟩ ⟨[]⟩ [])
  files := configured
  operator := ⟨[], []⟩
  log := []

def client : Library (Client.State ScriptedServer.State) := Client.library ScriptedServer.server ⟨[]⟩

theorem uncommon_port_kept :
    ∃ r after target events, (ported 2200).begin client awaiting = (.ok r, after) ∧
      resolve ⟨[]⟩ after.files r = (.ok target, events) ∧ target.port = 2200 := by
  have holds : Holds configured "config" "Port 2222\n" := Or.inl (by decide +kernel)
  have asked : ∃ r after, (ported 2200).begin client awaiting = (.ok r, after) ∧ after.files = configured :=
    ⟨_, _, rfl, rfl⟩
  obtain ⟨r, after, asked, files⟩ := asked
  obtain ⟨target, events, resolved, kept, _⟩ := (explicit_port_kept_iff asked ⟨[]⟩ configured).1 "config" _ rfl holds
  exact ⟨r, after, target, events, asked, by rw [files]; exact resolved, (kept 2200 rfl).mpr (Or.inl (by decide))⟩

theorem standard_port_replaced :
    ∃ r after target events, (ported 22).options.port = some 22 ∧ (ported 22).options.proxyCommand = none ∧
      (ported 22).begin client awaiting = (.ok r, after) ∧
      resolve ⟨[]⟩ after.files r = (.ok target, events) ∧ target.port = 2222 := by
  have holds : Holds configured "config" "Port 2222\n" := Or.inl (by decide +kernel)
  have asked : ∃ r after, (ported 22).begin client awaiting = (.ok r, after) ∧ after.files = configured ∧
      r.configFile = some "config" ∧ r.port = 22 ∧ r.host = "web01".lowercase :=
    ⟨_, _, rfl, rfl, rfl, rfl, rfl⟩
  obtain ⟨r, after, asked, files, named, standard, host⟩ := asked
  obtain ⟨events, resolved⟩ := resolve_file ⟨[]⟩ named holds
  refine ⟨r, after, _, events, rfl, rfl, asked, by rw [files]; exact resolved, ?_⟩
  have file_port : (ClientConfig.resolve ⟨[]⟩ (ClientConfig.parse "Port 2222\n") "web01".lowercase).port = some 2222 :=
    (ClientConfig.valueOf_parse (k := .port) _ _).trans (by decide +kernel)
  rw [port_standard standard, host, file_port, Option.getD_some]

end Target
end RemoteExec

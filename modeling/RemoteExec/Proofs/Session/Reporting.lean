import RemoteExec.Proofs.Session.Failing
import RemoteExec.Proofs.Session.Holding

namespace RemoteExec

variable {σ : Type}

inductive Failure.Kind where
  | missingDependency
  | connection
  | authentication
  | keyRejected
  | fileNotFound
  | transferFailed
  | unsupportedProtocol
  | unsupportedFeature
  | escalation
  | timeout
  | config
  | io
  | sshKey
deriving DecidableEq

def Failure.kind : Failure → Failure.Kind
  | .missingDependency _ => .missingDependency
  | .connection _ => .connection
  | .authentication _ => .authentication
  | .keyRejected _ => .keyRejected
  | .fileNotFound _ => .fileNotFound
  | .transferFailed _ => .transferFailed
  | .unsupportedProtocol _ => .unsupportedProtocol
  | .unsupportedFeature _ => .unsupportedFeature
  | .escalation _ => .escalation
  | .timeout _ => .timeout
  | .config _ => .config
  | .io _ => .io
  | .sshKey _ => .sshKey

namespace Operation

inductive Wants (files : FileSystem) : Operation → Prop where
  | connect : Wants files .connect
  | ensureConnected : Wants files .ensureConnected
  | connectSftp : Wants files .connectSftp
  | exec (command : String) (input : Option Bytes) (sudoable : Bool) (ungiven : input.getD [] = []) :
      Wants files (.exec command input sudoable)
  | putFile (source target : String) (protocol : TransferProtocol) (present : files.exists? source = true) :
      Wants files (.putFile source target protocol)
  | fetchFile (source target : String) (protocol : TransferProtocol) : Wants files (.fetchFile source target protocol)

def looksForHandle : Operation → Bool
  | .connectSftp => true
  | .fetchFile _ _ .sftp => true
  | _ => false

def fetchesByHandle : Operation → Bool
  | .fetchFile _ _ .sftp => true
  | _ => false

-- The operation gets nowhere without a connect: neither an open session nor, where it looks for one, a file handle is there.
structure MustConnect (lib : Library σ) (c : Connection) (s : Scene σ) (operation : Operation) : Prop where
  wants : operation.Wants s.outside.files
  dead : ¬ Cache.Live lib c.seat s.cache s.outside.lib
  away : operation ≠ .connect → ¬ Connection.OwnOpen lib s
  handleless : operation.looksForHandle = true → s.cache.sftp.get? c.seat = none

def reports (operation : Operation) (e : Failure) : Failure :=
  if operation.fetchesByHandle then Connection.noHandle e else e

end Operation

namespace Connection

inductive Cause where
  | hindrance (e : Failure)
  | refusal (e : Failure)

def Cause.failure : Cause → Failure
  | .hindrance e => e
  | .refusal e => connectFailure e

def Answered (calls calls' : List Call) (r : Request) (answer : Except Failure SessionId) : Prop :=
  calls ++ [.dial r, .establish r answer] <+: calls'

inductive Thwarted (lib : Library σ) (c : Connection) (files : FileSystem) (calls calls' : List Call) : Cause → Prop where
  | hindrance (e : Failure) (hinders : c.asks lib files = .error e) : Thwarted lib c files calls calls' (.hindrance e)
  | refusal (r : Request) (e : Failure) (asked : c.asks lib files = .ok r)
      (refused : Answered calls calls' r (.error e)) : Thwarted lib c files calls calls' (.refusal e)

variable {lib : Library σ} {c : Connection} {calls calls' : List Call}

theorem Answered.agree {r : Request} {one other : Except Failure SessionId} (first : Answered calls calls' r one)
    (second : Answered calls calls' r other) : one = other := by
  obtain ⟨more, grown⟩ := first
  obtain ⟨rest, same⟩ := second
  rw [← same, List.append_assoc, List.append_assoc, List.append_cancel_left_eq] at grown
  cases grown
  rfl

-- There is at most one cause, and where there is one no session was given.
theorem Thwarted.agree {files : FileSystem} {one other : Cause} (first : Thwarted lib c files calls calls' one)
    (second : Thwarted lib c files calls calls' other) : one = other := by
  cases first with
  | hindrance e hinders =>
      cases second with
      | hindrance f again =>
          cases hinders.symm.trans again
          rfl
      | refusal r f asked refused => cases hinders.symm.trans asked
  | refusal r e asked refused =>
      cases second with
      | hindrance f hinders => cases hinders.symm.trans asked
      | refusal q f again answered =>
          cases asked.symm.trans again
          cases refused.agree answered
          rfl

theorem Thwarted.ungiven {files : FileSystem} {cause : Cause} {r : Request} {session : SessionId}
    (thwarted : Thwarted lib c files calls calls' cause) (asked : c.asks lib files = .ok r)
    (given : Answered calls calls' r (.ok session)) : False := by
  cases thwarted with
  | hindrance e hinders => cases hinders.symm.trans asked
  | refusal q e again refused =>
      cases asked.symm.trans again
      cases given.agree refused

theorem connect_opens {s : Scene (Recorded σ)} (sound : s.cache.Sound)
    (dead : ¬ Cache.Live lib.recorded c.seat s.cache s.outside.lib) :
    ∃ told, Opens lib c (s.outside.tell told) (c.connect lib.recorded s).2.outside (c.connect lib.recorded s).1 := by
  obtain ⟨told, made⟩ := connect_dead sound dead
  have opens := connectUncached_opens lib c (s.outside.tell told)
  refine ⟨told, ?_⟩
  rw [made]
  cases opened : c.connectUncached lib.recorded (s.outside.tell told) with
  | mk outcome o =>
      rw [opened] at opens
      cases outcome with
      | ok session => exact opens
      | error e => exact opens

theorem Follows.connects {α : Type} {lib : Library σ} {s : Scene σ} {report : Failure → Failure}
    {ran : Except Failure α × Scene σ} (follows : Follows lib report (c.ensureConnected lib s) ran)
    (away : ¬ OwnOpen lib s) : Follows lib report (c.connect lib s) ran := by
  rw [← ensureConnected_connect away]
  exact follows

theorem operation_follows {s : Scene (Recorded σ)} (sound : s.cache.Sound) {operation : Operation}
    (must : operation.MustConnect lib.recorded c s) :
    ∃ before, before.cache.Sound ∧ ¬ Cache.Live lib.recorded c.seat before.cache before.outside.lib ∧
      before.outside.lib = s.outside.lib ∧ before.outside.files = s.outside.files ∧
      Follows lib.recorded operation.reports (c.connect lib.recorded before) (operation.act lib.recorded c s) := by
  obtain ⟨wants, dead, away, vacant⟩ := must
  cases wants with
  | connect => exact ⟨s, sound, dead, rfl, rfl, bind_follows fun _ mid => .refl _ mid⟩
  | ensureConnected =>
      have follows : Follows lib.recorded id _ ((do let _ ← c.ensureConnected lib.recorded) s) :=
        bind_follows fun _ mid => .refl _ mid
      exact ⟨s, sound, dead, rfl, rfl, follows.connects (away nofun)⟩
  | connectSftp =>
      have follows : Follows lib.recorded id (c.ensureConnected lib.recorded (entered c s)) _ :=
        (connectSftp_follows sound (vacant rfl)).unread
      exact ⟨entered c s, entered_sound sound, dead, rfl, rfl, follows.connects (away nofun)⟩
  | exec command input sudoable ungiven =>
      have follows : Follows lib.recorded id (c.ensureConnected lib.recorded s) _ :=
        (exec_follows command sudoable fun given => given ungiven).unread
      exact ⟨s, sound, dead, rfl, rfl, follows.connects (away nofun)⟩
  | putFile source target protocol present =>
      have follows : Follows lib.recorded id (c.ensureConnected lib.recorded (offered source target s)) _ :=
        putFile_follows target protocol present
      exact ⟨offered source target s, sound, dead, rfl, rfl, follows.connects (away nofun)⟩
  | fetchFile source target protocol =>
      have told : (announced source target s).cache.Sound := sound
      cases protocol with
      | sftp =>
          have follows : Follows lib.recorded noHandle
              (c.ensureConnected lib.recorded (entered c (announced source target s))) _ :=
            fetchSftp_follows sound (vacant rfl) source target
          exact ⟨_, entered_sound told, dead, rfl, rfl, follows.connects (away nofun)⟩
      | scp =>
          have follows : Follows lib.recorded id (c.ensureConnected lib.recorded (announced source target s)) _ :=
            fetchScp_follows source target
          exact ⟨_, told, dead, rfl, rfl, follows.connects (away nofun)⟩

inductive Reported (lib : Library σ) (c : Connection) (s t : Scene (Recorded σ)) (operation : Operation)
    (outcome : Except Failure Unit) : Prop where
  | thwarted (cause : Cause)
      (thwarted : Thwarted lib c s.outside.files s.outside.lib.calls t.outside.lib.calls cause)
      (reported : outcome = .error (operation.reports cause.failure))
  | given (r : Request) (session : SessionId) (asked : c.asks lib s.outside.files = .ok r)
      (given : Answered s.outside.lib.calls t.outside.lib.calls r (.ok session))

theorem Answered.keeps (r : Request) (answer : Except Failure SessionId) :
    lib.recorded.unasked.Keeps fun l => Answered calls l.calls r answer := by
  refine Library.Keeps.unasked (lib.recorded_keeps fun l _ more answered => ?_)
  exact answered.trans (List.prefix_append l.calls more)

theorem operation_reported {s : Scene (Recorded σ)} (sound : s.cache.Sound) {operation : Operation}
    (must : operation.MustConnect lib.recorded c s) :
    Reported lib c s (operation.act lib.recorded c s).2 operation (operation.act lib.recorded c s).1 := by
  obtain ⟨before, soundBefore, dead, sameLib, sameFiles, aside, reported⟩ := operation_follows sound must
  obtain ⟨told, opens⟩ := connect_opens soundBefore dead
  generalize c.connect lib.recorded before = first at aside reported opens
  obtain ⟨outcome, mid⟩ := first
  have untouched : (before.outside.tell told).lib.calls = s.outside.lib.calls := congrArg Recorded.calls sameLib
  cases opens with
  | hindered e hinders unasked =>
      obtain ⟨same, _⟩ := reported e rfl
      exact .thwarted (.hindrance e) (.hindrance e (sameFiles ▸ hinders)) same
  | refused r refusal asked calls =>
      obtain ⟨same, outside⟩ := reported _ rfl
      refine .thwarted (.refusal refusal) (.refusal r refusal (sameFiles ▸ asked) ?_) same
      refine ⟨[], (List.append_nil _).trans ?_⟩
      rw [outside, ← untouched]
      exact calls.symm
  | given r session asked calls =>
      refine .given r session (sameFiles ▸ asked) (aside.kept _ (Answered.keeps r (.ok session)) ?_)
      refine ⟨[], (List.append_nil _).trans ?_⟩
      rw [← untouched]
      exact calls.symm

theorem connectFailure_kind (e : Failure) : (connectFailure e).kind ≠ .transferFailed := by
  cases e with
  | _ => nofun

theorem user_error {e : Failure} (unknown : c.user = .error e) :
    e = .config "remote_user is not set and no local user found" := by
  unfold user at unknown
  by_cases unnamed : c.identity.user.isEmpty = true
  · rw [if_pos unnamed] at unknown
    unfold Options.resolvedUser at unknown
    grind
  · rw [if_neg unnamed] at unknown
    cases unknown

theorem keyFrom_kind {files : FileSystem} {e : Failure} (unread : c.keyFrom files = .error e) :
    e.kind = .fileNotFound ∨ e.kind = .io := by
  unfold keyFrom at unread
  grind [Failure.kind]

theorem asks_kind {files : FileSystem} {e : Failure} (hinders : c.asks lib files = .error e) :
    e.kind ≠ .transferFailed := by
  unfold asks at hinders
  by_cases available : c.hasLibrary = true
  · rw [if_pos available] at hinders
    cases known : c.user with
    | error cause =>
        rw [known] at hinders
        cases hinders
        rw [user_error known]
        nofun
    | ok user =>
        rw [known] at hinders
        cases read : c.keyFrom files with
        | error cause =>
            rw [read] at hinders
            cases hinders
            rcases keyFrom_kind read with missing | unreadable
            · rw [missing]
              nofun
            · rw [unreadable]
              nofun
        | ok key =>
            rw [read] at hinders
            simp only [Except.bind] at hinders
            by_cases old : Outdated lib c
            · rw [if_pos old] at hinders
              cases hinders
              nofun
            · rw [if_neg old] at hinders
              cases hinders
  · rw [if_neg available] at hinders
    cases hinders
    nofun

theorem Thwarted.kind {files : FileSystem} {cause : Cause} (thwarted : Thwarted lib c files calls calls' cause) :
    cause.failure.kind ≠ .transferFailed := by
  cases thwarted with
  | hindrance e hinders => exact asks_kind hinders
  | refusal r e asked refused => exact connectFailure_kind e

theorem reports_kind_iff {operation : Operation} {e : Failure} (other : e.kind ≠ .transferFailed) :
    (operation.reports e).kind = e.kind ↔ operation.fetchesByHandle = false := by
  unfold Operation.reports
  cases operation.fetchesByHandle with
  | false => simp
  | true => simpa [noHandle, Failure.kind] using other.symm

theorem reports_rejection_iff (operation : Operation) (rejection : Rejection) :
    operation.reports (.keyRejected rejection) = .keyRejected rejection ↔ operation.fetchesByHandle = false := by
  unfold Operation.reports
  cases operation.fetchesByHandle with
  | false => simp
  | true => simp [noHandle]

end Connection

namespace World

open Connection

theorem failed_connect_reported (lib : Library σ) (w : World (Recorded σ)) (reached : Reached lib w) (i : Nat)
    (c : Connection) (operation : Operation) (must : operation.MustConnect lib.recorded c (w.scene i))
    (outcome : Except Failure Unit) (after : World (Recorded σ))
    (ran : act i (operation.act lib.recorded c) w = (outcome, after)) :
    (∀ cause, Thwarted lib c w.files w.lib.calls after.lib.calls cause →
      outcome = .error (operation.reports cause.failure) ∧
      ((operation.reports cause.failure).kind = cause.failure.kind ↔ operation.fetchesByHandle = false) ∧
      ∀ rejection, cause = .refusal (.keyRejected rejection) →
        (outcome = .error (.keyRejected rejection) ↔ operation.fetchesByHandle = false)) ∧
    ((∀ cause, ¬ Thwarted lib c w.files w.lib.calls after.lib.calls cause) →
      ∃ r session, Answered w.lib.calls after.lib.calls r (.ok session)) := by
  have reports := operation_reported (s := w.scene i) reached.consistent.sound must
  cases same : operation.act lib.recorded c (w.scene i) with
  | mk result t =>
      rw [act, same] at ran
      rw [same] at reports
      cases ran
      cases reports with
      | thwarted cause thwarted reported =>
          change outcome = .error (operation.reports cause.failure) at reported
          refine ⟨fun other met => ?_, fun free => absurd thwarted (free cause)⟩
          cases met.agree thwarted
          refine ⟨reported, reports_kind_iff thwarted.kind, fun rejection rejected => ?_⟩
          rw [reported, rejected, Except.error.injEq]
          exact reports_rejection_iff operation rejection
      | given r session asked given =>
          exact ⟨fun cause met => (met.ungiven asked given).elim, fun _ => ⟨r, session, given⟩⟩

def guarded : Connection := { Memory.web with forcePersistence := true }

def shown : List (Happening Memory.State) := [.server fun s => { s with settings := { s.settings with
  hostKey := some ⟨"web01", 22, "ssh-ed25519", "SHA256:abcdef", "host key is unknown", "AAAAC3Nza"⟩ } }]

theorem shown_must_connect {operation : Operation} (wants : operation.Wants (run Memory.mock shown Memory.idle).files) :
    operation.MustConnect Memory.mock.recorded guarded ((run Memory.mock shown Memory.idle).scene 0) := by
  refine ⟨wants, fun live => ?_, fun _ own => ?_, fun _ => rfl⟩
  · obtain ⟨session, registered, _⟩ := live
    cases registered
  · obtain ⟨session, holds, _⟩ := own
    cases holds

theorem rejection_kind_changed :
    ¬ ∀ w, Reached Memory.mock w → ∀ i (c : Connection) (one other : Operation),
      one.MustConnect Memory.mock.recorded c (w.scene i) → other.MustConnect Memory.mock.recorded c (w.scene i) →
      ∀ cause e f after final,
        act i (one.act Memory.mock.recorded c) w = (.error e, after) →
        act i (other.act Memory.mock.recorded c) w = (.error f, final) →
        Thwarted Memory.mock c w.files w.lib.calls after.lib.calls cause →
        Thwarted Memory.mock c w.files w.lib.calls final.lib.calls cause → e.kind = f.kind := by
  intro same
  have kinds := same _ (Memory.run_reached shown) 0 guarded .connect (.fetchFile "from" "to" .sftp)
    (shown_must_connect .connect) (shown_must_connect (.fetchFile _ _ _)) _ _ _ _ _ rfl rfl
    (.refusal _ _ rfl ⟨[], rfl⟩) (.refusal _ _ rfl ⟨[], rfl⟩)
  cases kinds

theorem rejection_reported :
    ∃ rejection, (act 0 (Operation.connect.act Memory.mock.recorded guarded) (run Memory.mock shown Memory.idle)).1 =
        .error (.keyRejected rejection) ∧
      (act 0 ((Operation.fetchFile "from" "to" .sftp).act Memory.mock.recorded guarded)
        (run Memory.mock shown Memory.idle)).1 ≠ .error (.keyRejected rejection) := by
  have reached := Memory.run_reached shown
  have connected := (failed_connect_reported Memory.mock _ reached 0 guarded .connect
    (shown_must_connect .connect) _ _ rfl).1 _ (.refusal _ _ rfl ⟨[], rfl⟩)
  have fetched := (failed_connect_reported Memory.mock _ reached 0 guarded (.fetchFile "from" "to" .sftp)
    (shown_must_connect (.fetchFile "from" "to" .sftp)) _ _ rfl).1 _ (.refusal _ _ rfl ⟨[], rfl⟩)
  refine ⟨_, (connected.2.2 _ rfl).mpr rfl, fun same => ?_⟩
  cases (fetched.2.2 _ rfl).mp same

end World
end RemoteExec

import RemoteExec.Proofs.Session.Frames

namespace RemoteExec

variable {ε σ τ υ α β γ δ : Type}

inductive Agree (R : α → β → Prop) : Except ε α → Except ε β → Prop where
  | ok {x : α} {y : β} (related : R x y) : Agree R (.ok x) (.ok y)
  | error (e : ε) : Agree R (.error e) (.error e)

theorem Agree.eq {x y : Except ε α} (agree : Agree Eq x y) : x = y := by
  cases agree with
  | ok related => rw [related]
  | error e => rfl

theorem Agree.refl (x : Except ε α) : Agree Eq x x := by
  cases x with
  | ok x => exact .ok rfl
  | error e => exact .error e

def Pairs (S : τ → υ → Prop) (R : α → β → Prop) (a : ExceptT ε (StateM τ) α) (b : ExceptT ε (StateM υ) β) : Prop :=
  ∀ s t, S s t → Agree R (a s).1 (b t).1 ∧ S (a s).2 (b t).2

namespace Pairs

variable {S : τ → υ → Prop} {R : α → β → Prop} {Q : γ → δ → Prop}

theorem bind {a : ExceptT ε (StateM τ) α} {b : ExceptT ε (StateM υ) β} {f : α → ExceptT ε (StateM τ) γ}
    {g : β → ExceptT ε (StateM υ) δ} (first : Pairs S R a b) (second : ∀ x y, R x y → Pairs S Q (f x) (g y)) :
    Pairs S Q (a >>= f) (b >>= g) := by
  intro s t related
  obtain ⟨outcomes, after⟩ := first s t related
  rw [run_bind, run_bind]
  cases left : a s with
  | mk x s =>
      cases right : b t with
      | mk y t =>
          rw [left, right] at outcomes after
          cases outcomes with
          | ok values => exact second _ _ values s t after
          | error e => exact ⟨.error e, after⟩

theorem andThen {a : ExceptT ε (StateM τ) α} {b : ExceptT ε (StateM υ) α} {f : α → ExceptT ε (StateM τ) γ}
    {g : α → ExceptT ε (StateM υ) δ} (first : Pairs S Eq a b) (second : ∀ x, Pairs S Q (f x) (g x)) :
    Pairs S Q (a >>= f) (b >>= g) := by
  apply bind first
  intro x y same
  rw [← same]
  exact second x

-- What is read off related states need not be the same, so the rest is compared for each two of them.
theorem get_bind {f : τ → ExceptT ε (StateM τ) α} {g : υ → ExceptT ε (StateM υ) β}
    (rest : ∀ s t, S s t → Pairs S R (f s) (g t)) : Pairs S R (get >>= f) (get >>= g) := by
  intro s t related
  rw [run_bind, run_bind]
  exact rest s t related s t related

theorem pure {x : α} {y : β} (values : R x y) :
    Pairs S R (Pure.pure x : ExceptT ε (StateM τ) α) (Pure.pure y) := fun _ _ related => ⟨.ok values, related⟩

theorem throw (e : ε) :
    Pairs S R (MonadExcept.throw e : ExceptT ε (StateM τ) α) (MonadExcept.throw e) := fun _ _ related =>
  ⟨.error e, related⟩

theorem modify {f : τ → τ} {g : υ → υ} (kept : ∀ s t, S s t → S (f s) (g t)) :
    Pairs S Eq (modify f : ExceptT ε (StateM τ) PUnit) (modify g) := fun s t related => ⟨.ok rfl, kept s t related⟩

theorem map {f : α → γ} {g : β → δ} {a : ExceptT ε (StateM τ) α} {b : ExceptT ε (StateM υ) β} (first : Pairs S R a b)
    (values : ∀ x y, R x y → Q (f x) (g y)) : Pairs S Q (f <$> a) (g <$> b) := by
  rw [map_eq_pure_bind, map_eq_pure_bind]
  exact bind first fun x y related => pure (values x y related)

end Pairs

structure Blur where
  passwords : String → String → Prop
  keys : Bytes → Bytes → Prop
  answers : Bytes → Bytes → Prop

def Blur.none : Blur := ⟨Eq, Eq, Eq⟩

def Blur.all : Blur := ⟨fun _ _ => True, fun _ _ => True, fun _ _ => True⟩

inductive Request.Alike (blur : Blur) (r : Request) : Request → Prop where
  | mk (password : Option String) (key : Option Bytes) (passwords : Option.Rel blur.passwords r.password password)
      (keys : Option.Rel blur.keys r.privateKey key) :
    Alike blur r { r with password := password, privateKey := key }

inductive Escalation.Alike (blur : Blur) (e : Escalation) : Escalation → Prop where
  | mk (secret : Option Bytes) (answers : Option.Rel blur.answers e.secret secret) :
    Alike blur e { e with secret := secret }

inductive Connection.Alike (blur : Blur) (c : Connection) : Connection → Prop where
  | mk (password : Option String) (escalation : Option Escalation)
      (passwords : Option.Rel blur.passwords c.options.password password)
      (escalations : Option.Rel (Escalation.Alike blur) c.escalation escalation) :
    Alike blur c { c with options := { c.options with password := password }, escalation := escalation }

theorem rel_refl {R : α → α → Prop} (refl : ∀ x, R x x) (x : Option α) : Option.Rel R x x := by
  cases x with
  | some x => exact .some (refl x)
  | none => exact .none

theorem rel_eq {x y : Option α} (related : Option.Rel Eq x y) : x = y := by
  cases related with
  | some same => rw [same]
  | none => rfl

theorem rel_shown {R : α → β → Prop} {x : Option α} {y : Option β} (related : Option.Rel R x y) (text : String) :
    (y.map fun _ => text) = x.map fun _ => text := by
  cases related with
  | some _ => rfl
  | none => rfl

theorem Request.Alike.eq {r q : Request} (alike : r.Alike Blur.none q) : r = q := by
  cases alike with
  | mk password key passwords keys => rw [← rel_eq passwords, ← rel_eq keys]

theorem Connection.Alike.refl (c : Connection) : c.Alike Blur.none c := by
  apply Connection.Alike.mk c.options.password c.escalation
  · exact rel_refl (fun _ => rfl) _
  · exact rel_refl (fun e => .mk e.secret (rel_refl (fun _ => rfl) _)) _

theorem Escalation.Alike.scanLines {blur : Blur} {e f : Escalation} (alike : e.Alike blur f) (lines : List Bytes) :
    f.scanLines lines = e.scanLines lines := by
  cases alike with
  | mk secret answers =>
      induction lines with
      | nil => rfl
      | cons line rest ih => simp only [Escalation.scanLines, ih]

theorem Request.Alike.inspect {blur : Blur} {r q : Request} (alike : r.Alike blur q) : q.inspect = r.inspect := by
  cases alike with
  | mk password key passwords keys => simp only [Request.inspect, rel_shown passwords, rel_shown keys]

namespace Connection

namespace Alike

variable {blur : Blur} {c d : Connection}

theorem available (alike : c.Alike blur d) : d.hasLibrary = c.hasLibrary := by
  cases alike
  rfl

theorem user (alike : c.Alike blur d) : d.user = c.user := by
  cases alike
  rfl

theorem addr (alike : c.Alike blur d) : d.options.remoteAddr = c.options.remoteAddr := by
  cases alike
  rfl

theorem port (alike : c.Alike blur d) : d.options.effectivePort = c.options.effectivePort := by
  cases alike
  rfl

theorem seat (alike : c.Alike blur d) : d.seat = c.seat := by
  cases alike
  rfl

theorem proxy (alike : c.Alike blur d) (user : String) :
    Proxy.resolve d.options (d.route user) = Proxy.resolve c.options (c.route user) := by
  cases alike
  rfl

theorem requestOf (alike : c.Alike blur d) (user : String) (proxy : Option String) {x y : Option Bytes}
    (keys : Option.Rel blur.keys x y) : (c.requestOf user proxy x).Alike blur (d.requestOf user proxy y) := by
  cases alike with
  | mk password escalation passwords escalations => exact .mk password y passwords keys

end Alike
end Connection

structure Outside.Surrounds (blur : Blur) (S : Outside σ → Outside υ → Prop) : Prop where
  told : ∀ o p events, S o p → S (o.tell events) (p.tell events)
  present : ∀ o p path, S o p → o.files.exists? path = p.files.exists? path
  read : ∀ o p path, S o p → Agree blur.keys (o.files.read path) (p.files.read path)

structure Library.Parallel (blur : Blur) (S : Outside σ → Outside υ → Prop) (a : Library σ) (b : Library υ) : Prop where
  name : a.name = b.name
  version : a.version = b.version
  dial : ∀ r q, r.Alike blur q → ∀ o p, S o p → S (a.dial r o).2 (b.dial q p).2
  establish : ∀ r q, r.Alike blur q → Pairs S Eq (a.establish r) (b.establish q)
  isClosed : ∀ o p session, S o p → a.isClosed o.lib session = b.isClosed p.lib session
  newChannel : ∀ session, Pairs S Eq (a.newChannel session) (b.newChannel session)
  openSftp : ∀ session, Pairs S Eq (a.openSftp session) (b.openSftp session)
  openScp : ∀ session, Pairs S Eq (a.openScp session) (b.openScp session)
  closeSession : ∀ session, Pairs S Eq (a.closeSession session) (b.closeSession session)
  requestPty : ∀ channel, Pairs S Eq (a.requestPty channel) (b.requestPty channel)
  start : ∀ channel command, Pairs S Eq (a.start channel command) (b.start channel command)
  send : ∀ channel x y, blur.answers x y → Pairs S Eq (a.send channel (x ++ [10])) (b.send channel (y ++ [10]))
  receive : ∀ channel timeout limit, Pairs S Eq (a.receive channel timeout limit) (b.receive channel timeout limit)
  exec : ∀ channel command, Pairs S Eq (a.exec channel command) (b.exec channel command)
  finish : ∀ channel timeout, Pairs S Eq (a.finish channel timeout) (b.finish channel timeout)
  closeChannel : ∀ channel, Pairs S Eq (a.closeChannel channel) (b.closeChannel channel)
  pieces : ∀ o p channel, S o p → a.pieces o.lib channel = b.pieces p.lib channel
  sftpPut : ∀ handle source target, Pairs S Eq (a.sftpPut handle source target) (b.sftpPut handle source target)
  sftpGet : ∀ handle source target, Pairs S Eq (a.sftpGet handle source target) (b.sftpGet handle source target)
  closeSftp : ∀ handle, Pairs S Eq (a.closeSftp handle) (b.closeSftp handle)
  scpPut : ∀ handle source target, Pairs S Eq (a.scpPut handle source target) (b.scpPut handle source target)
  scpGet : ∀ handle source target, Pairs S Eq (a.scpGet handle source target) (b.scpGet handle source target)

section Calls

variable {blur : Blur} {S : Outside σ → Outside υ → Prop} {a : Library σ} {b : Library υ} {c d : Connection}

theorem Op.tell_pairs (around : Outside.Surrounds blur S) (level : Level) (text : String) :
    Pairs S Eq (tell level text : Op σ Unit) (tell level text) :=
  Pairs.modify fun o p related => around.told o p _ related

theorem Op.attempt_pairs {x : Op σ α} {y : Op υ α} (same : Pairs S Eq x y) : Pairs S Eq (attempt x) (attempt y) := by
  intro o p related
  obtain ⟨outcomes, after⟩ := same o p related
  rw [run_attempt, run_attempt]
  exact ⟨.ok outcomes.eq, after⟩

namespace Connection

open Op

theorem liftExcept_pairs (e : Except Failure α) :
    Pairs S Eq (prepare.liftExcept e : Op σ α) (prepare.liftExcept e : Op υ α) := by
  cases e with
  | ok x => exact Pairs.pure rfl
  | error e => exact Pairs.throw e

theorem readPrivateKey_pairs (around : Outside.Surrounds blur S) (alike : c.Alike blur d) (path : String) :
    Pairs S blur.keys (c.readPrivateKey path : Op σ Bytes) (d.readPrivateKey path) := by
  cases alike with
  | mk password escalation passwords escalations =>
      apply Pairs.andThen (tell_pairs around _ _)
      intro _
      apply Pairs.get_bind
      intro o p related
      have contents := around.read o p (expandHome c.environment path) related
      revert contents
      generalize o.files.read (expandHome c.environment path) = x
      generalize p.files.read (expandHome c.environment path) = y
      intro contents
      cases contents with
      | ok same => exact Pairs.pure same
      | error e => exact Pairs.throw _

theorem key_pairs (around : Outside.Surrounds blur S) (alike : c.Alike blur d) :
    Pairs S (Option.Rel blur.keys) (c.key? : Op σ _) (d.key? : Op υ _) := by
  have reads := fun path => readPrivateKey_pairs (S := S) around alike path
  have file : d.options.privateKeyFile = c.options.privateKeyFile := by
    cases alike
    rfl
  unfold key?
  rw [file]
  cases c.options.privateKeyFile with
  | some path => exact Pairs.map (reads path) fun _ _ same => .some same
  | none => exact Pairs.pure .none

theorem request_pairs (around : Outside.Surrounds blur S) (libs : Library.Parallel blur S a b) (alike : c.Alike blur d)
    (user : String) (proxy : Option String) {x y : Option Bytes} (keys : Option.Rel blur.keys x y) :
    Pairs S (Request.Alike blur) (c.request a user proxy x) (d.request b user proxy y) := by
  have requests := alike.requestOf user proxy keys
  have prompt : d.options.passwordPrompt = c.options.passwordPrompt := by
    cases alike
    rfl
  unfold request
  rw [libs.name, libs.version, prompt, requests.inspect]
  split
  · exact fun o p related => ⟨.error _, related⟩
  · apply Pairs.andThen (tell_pairs around _ _)
    intro _
    exact Pairs.pure requests

theorem prepare_pairs (around : Outside.Surrounds blur S) (libs : Library.Parallel blur S a b) (alike : c.Alike blur d) :
    Pairs S (Request.Alike blur) (c.prepare a) (d.prepare b) := by
  by_cases available : c.hasLibrary = true
  · rw [prepare_parts a available, prepare_parts b (alike.available.trans available), libs.name, libs.version,
      alike.user, alike.port, alike.addr]
    apply Pairs.andThen (tell_pairs around _ _)
    intro _
    apply Pairs.andThen (liftExcept_pairs _)
    intro user
    apply Pairs.andThen (tell_pairs around _ _)
    intro _
    rw [alike.proxy user]
    apply Pairs.andThen (Pairs.modify fun o p related => around.told o p _ related)
    intro _
    apply Pairs.bind (key_pairs around alike)
    intro x y keys
    exact request_pairs around libs alike user _ keys
  · unfold prepare
    rw [if_neg available, if_neg (alike.available ▸ available)]
    exact Pairs.throw _

theorem begin_pairs (around : Outside.Surrounds blur S) (libs : Library.Parallel blur S a b) (alike : c.Alike blur d) :
    Pairs S (Request.Alike blur) (c.begin a) (d.begin b) := by
  apply Pairs.bind (prepare_pairs around libs alike)
  intro r q requests
  have dials : Pairs S (fun _ _ => True) (ExceptT.lift (a.dial r) : Op σ Unit) (ExceptT.lift (b.dial q)) :=
    fun o p related => ⟨.ok trivial, libs.dial r q requests o p related⟩
  exact Pairs.bind dials fun _ _ _ => Pairs.pure requests

theorem complete_pairs (around : Outside.Surrounds blur S) (libs : Library.Parallel blur S a b) (alike : c.Alike blur d)
    {r q : Request} (requests : r.Alike blur q) : Pairs S Eq (c.complete a r) (d.complete b q) := by
  unfold complete
  rw [identity, identity, alike.seat, alike.addr]
  apply Pairs.andThen (attempt_pairs (libs.establish r q requests))
  intro outcome
  cases outcome with
  | ok session => exact Pairs.andThen (tell_pairs around _ _) fun _ => Pairs.pure rfl
  | error e => exact Pairs.andThen (tell_pairs around _ _) fun _ => Pairs.throw _

theorem connectUncached_pairs (around : Outside.Surrounds blur S) (libs : Library.Parallel blur S a b)
    (alike : c.Alike blur d) : Pairs S Eq (c.connectUncached a) (d.connectUncached b) :=
  Pairs.bind (begin_pairs around libs alike) fun _ _ requests => complete_pairs around libs alike requests

theorem watch_pairs (around : Outside.Surrounds blur S) (libs : Library.Parallel blur S a b) {e f : Escalation}
    (alike : e.Alike blur f) (timeout : Duration) (channel : ChannelId) (fuel : Nat) (seen : Bytes) :
    Pairs S Eq (watch a e timeout channel fuel seen) (watch b f timeout channel fuel seen) := by
  have user : f.user = e.user := by
    cases alike
    rfl
  have scan : ∀ output, f.scan output = e.scan output := fun output => alike.scanLines output.lines
  induction fuel generalizing seen with
  | zero => exact Pairs.throw _
  | succ fuel ih =>
      apply Pairs.andThen (tell_pairs around _ _)
      intro _
      apply Pairs.andThen (libs.receive channel timeout readSize)
      intro piece
      cases piece with
      | none => exact Pairs.throw _
      | some chunk =>
          apply Pairs.andThen (tell_pairs around _ _)
          intro _
          by_cases empty : chunk.isEmpty = true
          · rw [if_pos empty, if_pos empty]
            by_cases unknown : Bytes.contains (Bytes.ofString "unknown user") seen = true
            · rw [if_pos unknown, if_pos unknown, user]
              exact Pairs.throw _
            · rw [if_neg unknown, if_neg unknown]
              exact Pairs.pure rfl
          · rw [if_neg empty, if_neg empty]
            cases progress : e.scan (seen ++ chunk) with
            | waiting => simpa only [scan, progress] using ih (seen ++ chunk)
            | success => simpa only [scan, progress] using Pairs.pure rfl
            | passwordPrompt => simpa only [scan, progress] using Pairs.pure rfl

theorem answerWatch_pairs (libs : Library.Parallel blur S a b) {e f : Escalation} (alike : e.Alike blur f)
    (channel : ChannelId) (watched : Watch × Bytes) :
    Pairs S Eq (answerWatch a e channel watched) (answerWatch b f channel watched) := by
  cases watched with
  | mk ended seen =>
      cases ended with
      | success => exact Pairs.pure rfl
      | closed => exact Pairs.pure rfl
      | passwordPrompt =>
          cases alike with
          | mk other answers =>
              simp only [answerWatch]
              cases secret : e.secret with
              | none =>
                  rw [secret] at answers
                  cases answers
                  exact Pairs.throw _
              | some x =>
                  rw [secret] at answers
                  cases answers with
                  | some same => exact Pairs.andThen (libs.send channel _ _ same) fun _ => Pairs.pure rfl

theorem negotiate_pairs (around : Outside.Surrounds blur S) (libs : Library.Parallel blur S a b) {e f : Escalation}
    (alike : e.Alike blur f) (timeout : Duration) (channel : ChannelId) (command : String) :
    Pairs S Eq (negotiate a e timeout channel command) (negotiate b f timeout channel command) := by
  apply Pairs.andThen (libs.start channel _)
  intro _
  apply Pairs.get_bind
  intro o p related
  rw [libs.pieces o p channel related]
  apply Pairs.andThen (watch_pairs around libs alike timeout channel _ [])
  intro watched
  apply Pairs.andThen (answerWatch_pairs libs alike channel watched)
  intro output
  apply Pairs.andThen (libs.finish channel timeout)
  intro exit
  cases exit with
  | none => exact Pairs.throw _
  | some exit => exact Pairs.pure rfl

theorem Alike.asking (alike : c.Alike blur d) :
    Option.Rel (Escalation.Alike blur) (c.escalation.filter (·.expectsPrompt)) (d.escalation.filter (·.expectsPrompt)) := by
  cases alike with
  | mk password escalation passwords escalations =>
      revert escalations
      generalize c.escalation = before
      intro escalations
      cases escalations with
      | none => exact .none
      | @some e f same =>
          have asks : f.expectsPrompt = e.expectsPrompt := by
            cases same
            rfl
          simp only [Option.filter, asks]
          split
          · exact .some same
          · exact .none

theorem runOn_pairs (around : Outside.Surrounds blur S) (libs : Library.Parallel blur S a b) (alike : c.Alike blur d)
    (channel : ChannelId) (command : String) (sudoable : Bool) :
    Pairs S Eq (c.runOn a channel command sudoable) (d.runOn b channel command sudoable) := by
  have pty : d.options.pty = c.options.pty := by
    cases alike
    rfl
  have timeout : d.options.timeout = c.options.timeout := by
    cases alike
    rfl
  unfold runOn
  extract_lets rest other
  have rest_pairs : Pairs S Eq (rest ()) (other ()) := by
    apply Pairs.andThen (tell_pairs around _ _)
    intro _
    have escalations := alike.asking
    revert escalations
    generalize c.escalation.filter (·.expectsPrompt) = e?
    generalize d.escalation.filter (·.expectsPrompt) = f?
    intro escalations
    cases escalations with
    | none => exact libs.exec channel command
    | some same =>
        rw [timeout]
        exact negotiate_pairs around libs same c.options.timeout channel command
  rw [pty]
  by_cases asked : (c.options.pty && sudoable) = true
  · rw [if_pos asked, if_pos asked]
    exact Pairs.andThen (libs.requestPty channel) fun _ => rest_pairs
  · rw [if_neg asked, if_neg asked]
    exact rest_pairs

end Connection

end Calls
end RemoteExec

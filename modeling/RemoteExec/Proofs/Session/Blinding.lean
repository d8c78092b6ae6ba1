import RemoteExec.Proofs.Files.Hiding
import RemoteExec.Proofs.Session.Alongside
import RemoteExec.Proofs.Session.Memory

namespace RemoteExec

variable {σ α β : Type}

structure Outside.Alike (hidden : Place → Prop) (alike : σ → σ → Prop) (o p : Outside σ) : Prop where
  lib : alike o.lib p.lib
  files : o.files.Alike hidden p.files
  operator : o.operator = p.operator
  log : o.log = p.log

namespace Outside.Alike

variable {hidden : Place → Prop} {alike : σ → σ → Prop} {o p : Outside σ}

theorem told (same : o.Alike hidden alike p) (events : List Event) :
    (o.tell events).Alike hidden alike (p.tell events) :=
  ⟨same.lib, same.files, same.operator, congrArg (· ++ events) same.log⟩

theorem surrounds (hidden : Place → Prop) (alike : σ → σ → Prop) :
    Outside.Surrounds Blur.all (Outside.Alike hidden alike) where
  told := fun _ _ events same => same.told events
  present := fun _ _ path same => same.files.present path
  read := fun _ _ path same => same.files.read path

end Outside.Alike

def Library.Blind (hidden : Place → Prop) (alike : σ → σ → Prop) (lib : Library σ) : Prop :=
  Library.Parallel Blur.all (Outside.Alike hidden alike) lib lib

namespace Memory

def Channel.veiled (c : Channel) : Channel := { c with sent := [] }

def withoutContent (file : String × Bytes) : String × Bytes := (file.1, [])

def State.veiled (s : State) : State :=
  { s with
    channels := s.channels.map Channel.veiled
    remote := s.remote.map withoutContent
    request := none }

abbrev Indistinct (s t : State) : Prop := s.veiled = t.veiled

-- All files of the local host are hidden: what is uploaded may be downloaded to any of them.
abbrev Same (o p : Outside State) : Prop := o.Alike (fun _ => True) Indistinct p

namespace Indistinct

variable {s t : State}

theorem reading (same : Indistinct s t) (f : State → α) (shown : ∀ s, f s = f s.veiled) : f s = f t := by
  rw [shown s, shown t, same]

theorem settings (same : Indistinct s t) : s.settings = t.settings := same.reading State.settings fun _ => rfl

theorem channel (same : Indistinct s t) (id : ChannelId) :
    (s.channels[id]?).map Channel.veiled = (t.channels[id]?).map Channel.veiled := by
  have inside : s.channels.map Channel.veiled = t.channels.map Channel.veiled := congrArg State.channels same
  rw [← List.getElem?_map, ← List.getElem?_map, inside]

theorem script (same : Indistinct s t) (id : ChannelId) :
    (s.channels[id]?).map Channel.script = (t.channels[id]?).map Channel.script := by
  apply same.reading fun s => (s.channels[id]?).map Channel.script
  intro s
  simp [State.veiled, Channel.veiled, Function.comp_def]

theorem rechanneled (same : Indistinct s t) {channels others : List Channel}
    (veiled : channels.map Channel.veiled = others.map Channel.veiled) :
    Indistinct { s with channels := channels } { t with channels := others } := by
  show { s.veiled with channels := channels.map Channel.veiled } = { t.veiled with channels := others.map Channel.veiled }
  rw [same, veiled]

theorem stored (same : Indistinct s t) (name : String) :
    (remoteFile? s name).isSome = (remoteFile? t name).isSome := by
  apply same.reading fun s => (remoteFile? s name).isSome
  intro s
  simp [remoteFile?, State.veiled, withoutContent, Function.comp_def]

theorem pieces (same : Indistinct s t) (id : ChannelId) : Memory.pieces s id = Memory.pieces t id := by
  have weighed : ∀ s : State,
      Memory.pieces s id = (((s.channels[id]?).map Channel.script).map fun k => weight k.chunks).getD 0 := by
    intro s
    simp only [Memory.pieces, weight]
    cases s.channels[id]? with
    | none => rfl
    | some c => rfl
  rw [weighed, weighed, same.script id]

end Indistinct

theorem lib_bind {R : α → β → Prop} {f : State → Op State α} {g : State → Op State β}
    (rest : ∀ s t, Indistinct s t → Pairs Same R (f s) (g t)) : Pairs Same R (lib >>= f) (lib >>= g) := by
  intro o p same
  rw [run_bind, run_bind, run_lib, run_lib]
  exact rest o.lib p.lib same.lib o p same

theorem failWith_pairs (e? : Option Failure) : Pairs Same Eq (failWith e?) (failWith e?) := by
  cases e? with
  | none => exact Pairs.pure rfl
  | some e => exact Pairs.throw e

theorem change_pairs {f g : State → State} (kept : ∀ s t, Indistinct s t → Indistinct (f s) (g t)) :
    Pairs Same Eq (change f) (change g) := by
  apply Pairs.modify
  intro o p same
  exact ⟨kept o.lib p.lib same.lib, same.files, same.operator, same.log⟩

theorem change_veiled {f : State → State} (through : ∀ s, (f s).veiled = f s.veiled) :
    Pairs Same Eq (change f) (change f) := by
  apply change_pairs
  intro s t same
  rw [Indistinct, through, through, same]

theorem script_pairs (id : ChannelId) : Pairs Same Eq (script id) (script id) := by
  apply lib_bind
  intro s t same
  rw [same.script id]
  exact Pairs.pure rfl

theorem onChannel_pairs (id : ChannelId) {f g : Channel → Channel}
    (kept : ∀ c d, c.veiled = d.veiled → (f c).veiled = (g d).veiled) :
    Pairs Same Eq (onChannel id f) (onChannel id g) := by
  apply change_pairs
  intro s t same
  apply same.rechanneled
  apply List.ext_getElem?
  intro i
  have here := same.channel i
  simp only [List.getElem?_map, List.getElem?_modify]
  generalize s.channels[i]? = x at here ⊢
  generalize t.channels[i]? = y at here ⊢
  cases x with
  | none =>
      cases y with
      | none => rfl
      | some d => cases here
  | some c =>
      cases y with
      | none => cases here
      | some d =>
          have alike : c.veiled = d.veiled := Option.some.inj here
          by_cases named : id = i
          · simp [named, kept c d alike]
          · simp [named, alike]

theorem onChannel_veiled (id : ChannelId) {f : Channel → Channel} (through : ∀ c, (f c).veiled = f c.veiled) :
    Pairs Same Eq (onChannel id f) (onChannel id f) := by
  apply onChannel_pairs
  intro c d alike
  rw [through, through, alike]

theorem setChunks_pairs (id : ChannelId) (chunks : List Chunk) :
    Pairs Same Eq (setChunks id chunks) (setChunks id chunks) :=
  onChannel_veiled id fun _ => rfl

theorem give_pairs (id : ChannelId) (limit : Nat) (b : Bytes) (rest : List Chunk) :
    Pairs Same Eq (give id limit b rest) (give id limit b rest) :=
  Pairs.andThen (setChunks_pairs id _) fun _ => Pairs.pure rfl

theorem receive_pairs (id : ChannelId) (timeout : Duration) (limit : Nat) :
    Pairs Same Eq (receive id timeout limit) (receive id timeout limit) := by
  apply Pairs.andThen (script_pairs id)
  intro played
  cases played.chunks with
  | nil => exact Pairs.pure rfl
  | cons first rest =>
      cases first with
      | data b => exact give_pairs id limit b rest
      | failure e => exact Pairs.andThen (setChunks_pairs id rest) fun _ => Pairs.throw e
      | delayed wait b =>
          by_cases soon : wait ≤ milliseconds timeout
          · simpa only [if_pos soon] using give_pairs id limit b rest
          · simpa only [if_neg soon] using Pairs.pure rfl

theorem finish_pairs (id : ChannelId) (timeout : Duration) :
    Pairs Same Eq (finish id timeout) (finish id timeout) := by
  apply Pairs.andThen (script_pairs id)
  intro played
  cases played.hangOnFinish with
  | true => exact Pairs.pure rfl
  | false => exact Pairs.andThen (failWith_pairs _) fun _ => Pairs.pure rfl

theorem verifyKey_pairs {r q : Request} (policy : r.policy = q.policy) :
    Pairs Same Eq (verifyKey r) (verifyKey q) := by
  apply lib_bind
  intro s t same
  rw [same.settings, policy]
  cases t.settings.hostKey with
  | none => exact Pairs.pure rfl
  | some key =>
      apply Pairs.get_bind
      intro o p same
      rw [same.operator]
      cases q.policy.verify key p.operator with
      | mk outcome shown =>
          refine Pairs.andThen (Pairs.modify fun o p same => ?_) fun _ => ?_
          · exact ⟨same.lib, same.files, rfl, congrArg (· ++ shown.2) same.log⟩
          · cases outcome with
            | ok done => exact Pairs.pure rfl
            | error e => exact Pairs.throw e

theorem establish_pairs {r q : Request} (alike : r.Alike Blur.all q) : Pairs Same Eq (establish r) (establish q) := by
  have policy : r.policy = q.policy := by
    cases alike
    rfl
  apply lib_bind
  intro s t same
  rw [same.settings]
  apply Pairs.andThen (failWith_pairs _)
  intro _
  apply Pairs.andThen (verifyKey_pairs policy)
  intro trusted
  apply lib_bind
  intro s t same
  rw [same.reading (fun s => s.sessions.length) fun _ => rfl]
  refine Pairs.andThen (change_pairs fun s t same => ?_) fun _ => Pairs.pure rfl
  exact congrArg (fun v : State => { v with sessions := v.sessions ++ [false] }) same

theorem newChannel_pairs : Pairs Same Eq newChannel newChannel := by
  apply lib_bind
  intro s t same
  rw [same.settings, same.reading (fun s => s.channels.length) fun s => by simp [State.veiled]]
  apply Pairs.andThen (failWith_pairs _)
  intro _
  refine Pairs.andThen (change_veiled fun s => ?_) fun _ => Pairs.pure rfl
  simp [State.veiled, Channel.veiled]

theorem openSftp_pairs : Pairs Same Eq openSftp openSftp := by
  apply lib_bind
  intro s t same
  rw [same.settings, same.reading State.sftpOpens fun _ => rfl]
  apply Pairs.andThen (failWith_pairs _)
  intro _
  exact Pairs.andThen (change_veiled fun _ => rfl) fun _ => Pairs.pure rfl

theorem openScp_pairs : Pairs Same Eq openScp openScp := by
  apply lib_bind
  intro s t same
  rw [same.settings, same.reading State.scpOpens fun _ => rfl]
  apply Pairs.andThen (failWith_pairs _)
  intro _
  exact Pairs.andThen (change_veiled fun _ => rfl) fun _ => Pairs.pure rfl

theorem closeSession_pairs (id : SessionId) : Pairs Same Eq (closeSession id) (closeSession id) := by
  apply lib_bind
  intro s t same
  rw [same.settings]
  apply Pairs.andThen (failWith_pairs _)
  intro _
  exact change_veiled fun _ => rfl

theorem requestPty_pairs (id : ChannelId) : Pairs Same Eq (requestPty id) (requestPty id) := by
  apply Pairs.andThen (script_pairs id)
  intro played
  apply Pairs.andThen (failWith_pairs _)
  intro _
  exact onChannel_veiled id fun _ => rfl

theorem start_pairs (id : ChannelId) (command : Bytes) : Pairs Same Eq (start id command) (start id command) := by
  apply Pairs.andThen (script_pairs id)
  intro played
  apply Pairs.andThen (failWith_pairs _)
  intro _
  exact onChannel_veiled id fun _ => rfl

theorem send_pairs (id : ChannelId) (x y : Bytes) : Pairs Same Eq (send id x) (send id y) := by
  apply Pairs.andThen (script_pairs id)
  intro played
  apply Pairs.andThen (failWith_pairs _)
  intro _
  apply onChannel_pairs
  intro c d alike
  exact alike

theorem exec_pairs (id : ChannelId) (command : String) : Pairs Same Eq (exec id command) (exec id command) := by
  apply Pairs.andThen (script_pairs id)
  intro played
  refine Pairs.andThen (onChannel_veiled id fun c => ?_) fun _ => ?_
  · rfl
  · exact Pairs.andThen (failWith_pairs _) fun _ => Pairs.pure rfl

theorem closeChannel_pairs (id : ChannelId) : Pairs Same Eq (closeChannel id) (closeChannel id) := by
  refine Pairs.andThen (change_veiled fun s => ?_) fun _ => lib_bind fun s t same => ?_
  · rfl
  · rw [same.settings]
    apply Pairs.andThen (failWith_pairs _)
    intro _
    exact onChannel_veiled id fun _ => rfl

theorem closeSftp_pairs : Pairs Same Eq closeSftp closeSftp := by
  refine Pairs.andThen (change_veiled fun s => ?_) fun _ => lib_bind fun s t same => ?_
  · rfl
  · rw [same.settings]
    exact failWith_pairs _

theorem ofFiles_pairs {R : α → β → Prop} {x : Except IoError α} {y : Except IoError β} (agree : Agree R x y) :
    Pairs Same R (ofFiles x) (ofFiles y) := by
  cases agree with
  | ok values => exact Pairs.pure values
  | error e => exact Pairs.throw e

theorem upload_pairs (source target : String) : Pairs Same Eq (upload source target) (upload source target) := by
  apply Pairs.get_bind
  intro o p same
  apply Pairs.bind (ofFiles_pairs (same.files.read source))
  intro x y _
  apply Pairs.modify
  intro o p same
  refine ⟨?_, same.files, same.operator, same.log⟩
  have emptied : ∀ content remote, (store target content remote).map withoutContent =
      store target [] (remote.map withoutContent) := by
    intro content remote
    simp [store, withoutContent, List.filter_map, Function.comp_def]
  have before : o.lib.remote.map withoutContent = p.lib.remote.map withoutContent := congrArg State.remote same.lib
  show { o.lib.veiled with remote := (store target x o.lib.remote).map withoutContent } =
    { p.lib.veiled with remote := (store target y p.lib.remote).map withoutContent }
  rw [emptied, emptied, before, same.lib]

theorem download_pairs (source target missing : String) :
    Pairs Same Eq (download source target missing) (download source target missing) := by
  apply Pairs.get_bind
  intro o p same
  have there := same.lib.stored source
  generalize remoteFile? o.lib source = x at there ⊢
  generalize remoteFile? p.lib source = y at there ⊢
  cases x with
  | none =>
      cases y with
      | none => exact Pairs.throw _
      | some other => cases there
  | some content =>
      cases y with
      | none => cases there
      | some other =>
          apply Pairs.bind (ofFiles_pairs (same.files.write target fun _ mode => .content content other mode trivial))
          intro files others alike
          apply Pairs.modify
          intro o p same
          exact ⟨same.lib, alike, same.operator, same.log⟩

theorem library_blind (name : String) (version : Version) :
    (library name version).Blind (fun _ => True) Indistinct where
  name := rfl
  version := rfl
  dial := fun _ _ _ _ _ same =>
    ⟨congrArg (fun v : State => { v with connects := v.connects + 1 }) same.lib, same.files, same.operator, same.log⟩
  establish := fun _ _ alike => establish_pairs alike
  isClosed := fun _ _ session same => same.lib.reading (isClosed · session) fun _ => rfl
  newChannel := fun _ => newChannel_pairs
  openSftp := fun _ => openSftp_pairs
  openScp := fun _ => openScp_pairs
  closeSession := closeSession_pairs
  requestPty := requestPty_pairs
  start := start_pairs
  send := fun id _ _ _ => send_pairs id _ _
  receive := receive_pairs
  exec := exec_pairs
  finish := finish_pairs
  closeChannel := closeChannel_pairs
  pieces := fun _ _ id same => same.lib.pieces id
  sftpPut := fun _ => upload_pairs
  sftpGet := fun _ source target => download_pairs source target _
  closeSftp := fun _ => closeSftp_pairs
  scpPut := fun _ => upload_pairs
  scpGet := fun _ source target => download_pairs source target _

end Memory
end RemoteExec

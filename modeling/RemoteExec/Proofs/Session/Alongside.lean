import RemoteExec.Proofs.Session.Relating
import RemoteExec.Proofs.Session.Runs

namespace RemoteExec

variable {σ υ α β : Type} {blur : Blur} {S : Outside σ → Outside υ → Prop} {a : Library σ} {b : Library υ}
  {c d : Connection}

structure Scene.Paired (S : Outside σ → Outside υ → Prop) (s : Scene σ) (t : Scene υ) : Prop where
  outside : S s.outside t.outside
  cache : s.cache = t.cache
  held : s.held = t.held

theorem Scene.Paired.recached {s : Scene σ} {t : Scene υ} (related : Scene.Paired S s t) (f : Cache → Cache) :
    Scene.Paired S { s with cache := f s.cache } { t with cache := f t.cache } :=
  ⟨related.outside, congrArg f related.cache, related.held⟩

namespace Act

theorem ofOp_pairs {R : α → β → Prop} {x : Op σ α} {y : Op υ β} (same : Pairs S R x y) :
    Pairs (Scene.Paired S) R (ofOp x) (ofOp y) := by
  intro s t related
  obtain ⟨outcomes, after⟩ := same s.outside t.outside related.outside
  exact ⟨outcomes, after, related.cache, related.held⟩

theorem tell_pairs (around : Outside.Surrounds blur S) (level : Level) (text : String) :
    Pairs (Scene.Paired S) Eq (tell level text : Act σ Unit) (tell level text) :=
  ofOp_pairs (Op.tell_pairs around level text)

theorem hold_pairs (change : Held → Held) : Pairs (Scene.Paired S) Eq (hold change : Act σ Unit) (hold change) := by
  apply Pairs.modify
  intro s t related
  exact ⟨related.outside, related.cache, congrArg change related.held⟩

theorem held_pairs : Pairs (Scene.Paired S) Eq (held : Act σ Held) held := by
  apply Pairs.get_bind
  intro s t related
  exact Pairs.pure related.held

theorem attempt_pairs {x : Act σ α} {y : Act υ α} (same : Pairs (Scene.Paired S) Eq x y) :
    Pairs (Scene.Paired S) Eq (attempt x) (attempt y) := by
  intro s t related
  obtain ⟨outcomes, after⟩ := same s t related
  rw [run_attempt, run_attempt]
  exact ⟨.ok outcomes.eq, after⟩

theorem obtain_pairs (registry : Cache → Registry Seat α) (update : Cache → Registry Seat α → Cache) (seat : Seat)
    {x : Act σ α} {y : Act υ α} (same : Pairs (Scene.Paired S) Eq x y) :
    Pairs (Scene.Paired S) Eq (obtain registry update seat x) (obtain registry update seat y) := by
  intro s t related
  have entered := related.recached fun cache => update cache ((registry cache).enter seat).2
  obtain ⟨outcomes, after⟩ := same _ _ entered
  simp only [obtain, ExceptT.mk, related.cache] at entered outcomes after ⊢
  cases ((registry t.cache).enter seat).2.value? ((registry t.cache).enter seat).1 with
  | some value => exact ⟨.ok rfl, entered⟩
  | none =>
      revert outcomes after
      cases x { s with cache := update t.cache ((registry t.cache).enter seat).2 } with
      | mk outcome s' =>
          cases y { t with cache := update t.cache ((registry t.cache).enter seat).2 } with
          | mk other t' =>
              intro outcomes after
              cases outcomes with
              | ok made => exact ⟨.ok made, made ▸ after.recached fun cache => update cache ((registry cache).fill _ _)⟩
              | error e => exact ⟨.error e, after.recached fun cache => update cache ((registry cache).abandon seat _)⟩

end Act

namespace Connection

open Act

theorem ofIo_pairs {x : IoOp σ α} {y : IoOp υ α} (same : Pairs S Eq x y) (failure : IoError → Failure) :
    Pairs (Scene.Paired S) Eq (ofIo x failure) (ofIo y failure) := by
  apply ofOp_pairs
  intro o p related
  obtain ⟨outcomes, after⟩ := same o p related
  revert outcomes after
  simp only [ExceptT.mk]
  cases x o with
  | mk outcome o' =>
      cases y p with
      | mk other p' =>
          intro outcomes after
          cases outcomes with
          | ok value => exact ⟨.ok value, after⟩
          | error e => exact ⟨.error _, after⟩

theorem evictSessionIf_pairs (around : Outside.Surrounds blur S) (alike : c.Alike blur d)
    {stale : σ → SessionId → Bool} {gone : υ → SessionId → Bool}
    (agree : ∀ o p session, S o p → stale o.lib session = gone p.lib session) :
    Pairs (Scene.Paired S) Eq (c.evictSessionIf stale) (d.evictSessionIf gone) := by
  apply Pairs.get_bind
  intro s t related
  have judged : stale s.outside.lib = gone t.outside.lib := funext fun session => agree _ _ session related.outside
  rw [judged, related.cache, alike.seat]
  cases t.cache.sessions.removeIf c.seat (gone t.outside.lib) with
  | mk found sessions =>
      cases found with
      | none => exact Pairs.pure rfl
      | some session =>
          simp only [identity, alike.seat]
          apply Pairs.andThen (tell_pairs around _ _)
          intro _
          refine Pairs.andThen (Pairs.modify fun s t related => ?_) fun _ => Pairs.pure rfl
          exact related.recached fun cache => ⟨sessions, (cache.sftp.remove c.seat).2⟩

theorem approach_pairs (around : Outside.Surrounds blur S) (libs : Library.Parallel blur S a b)
    (alike : c.Alike blur d) : Pairs (Scene.Paired S) Eq (c.approach a) (d.approach b) := by
  have evicts : Pairs (Scene.Paired S) Eq (c.evictClosed a) (d.evictClosed b) := by
    unfold evictClosed
    rw [identity, identity, alike.seat]
    apply Pairs.andThen (evictSessionIf_pairs around alike libs.isClosed)
    intro evicted
    cases evicted with
    | true => exact tell_pairs around _ _
    | false => exact Pairs.pure rfl
  apply Pairs.andThen evicts
  intro _
  exact hold_pairs _

theorem conclude_pairs (outcome : Except Failure SessionId) :
    Pairs (Scene.Paired S) Eq (conclude outcome : Act σ Unit) (conclude outcome) := by
  cases outcome with
  | ok session => exact hold_pairs _
  | error e => exact hold_pairs _

theorem connect_pairs (around : Outside.Surrounds blur S) (libs : Library.Parallel blur S a b)
    (alike : c.Alike blur d) : Pairs (Scene.Paired S) Eq (c.connect a) (d.connect b) := by
  apply Pairs.andThen (approach_pairs around libs alike)
  intro _
  rw [alike.seat]
  apply Pairs.andThen (attempt_pairs (obtain_pairs _ _ c.seat (ofOp_pairs (connectUncached_pairs around libs alike))))
  intro outcome
  cases outcome with
  | ok session => exact Pairs.andThen (conclude_pairs _) fun _ => Pairs.pure rfl
  | error e => exact Pairs.andThen (conclude_pairs _) fun _ => Pairs.throw e

theorem ensureConnected_pairs (around : Outside.Surrounds blur S) (libs : Library.Parallel blur S a b)
    (alike : c.Alike blur d) : Pairs (Scene.Paired S) Eq (c.ensureConnected a) (d.ensureConnected b) := by
  apply Pairs.get_bind
  intro s t related
  have connects := connect_pairs around libs alike
  rw [related.held]
  cases t.held.session with
  | none => exact connects
  | some session =>
      simp only [libs.isClosed _ _ session related.outside]
      by_cases closed : b.isClosed t.outside.lib session = true
      · simpa only [if_pos closed] using connects
      · simpa only [if_neg closed] using Pairs.pure rfl

theorem connectSftp_pairs (around : Outside.Surrounds blur S) (libs : Library.Parallel blur S a b)
    (alike : c.Alike blur d) : Pairs (Scene.Paired S) Eq (c.connectSftp a) (d.connectSftp b) := by
  unfold connectSftp
  rw [alike.seat]
  apply obtain_pairs
  apply Pairs.andThen (ensureConnected_pairs around libs alike)
  intro session
  exact ofOp_pairs (libs.openSftp session)

theorem openingSftp_pairs {x : Act σ α} {y : Act υ α} (same : Pairs (Scene.Paired S) Eq x y) :
    Pairs (Scene.Paired S) Eq (openingSftp x) (openingSftp y) := by
  apply Pairs.andThen (attempt_pairs same)
  intro outcome
  cases outcome with
  | ok value => exact Pairs.pure rfl
  | error e => exact Pairs.throw _

theorem keepChannel_pairs (around : Outside.Surrounds blur S) (libs : Library.Parallel blur S a b)
    (channel : ChannelId) : Pairs (Scene.Paired S) Eq (keepChannel a channel) (keepChannel b channel) := by
  apply Pairs.andThen held_pairs
  intro before
  apply Pairs.andThen (hold_pairs _)
  intro _
  cases before.channel with
  | none => exact Pairs.pure rfl
  | some old =>
      apply Pairs.andThen (attempt_pairs (ofOp_pairs (libs.closeChannel old)))
      intro outcome
      cases outcome with
      | ok done => exact Pairs.pure rfl
      | error e => exact tell_pairs around _ _

theorem openChannel_pairs (libs : Library.Parallel blur S a b) (session : SessionId) :
    Pairs (Scene.Paired S) Eq (openChannel a session) (openChannel b session) := by
  apply Pairs.andThen (attempt_pairs (ofOp_pairs (libs.newChannel session)))
  intro outcome
  cases outcome with
  | ok channel => exact Pairs.pure rfl
  | error e => exact Pairs.throw _

theorem exec_pairs (around : Outside.Surrounds blur S) (libs : Library.Parallel blur S a b) (alike : c.Alike blur d)
    (command : String) (input : Option Bytes) (sudoable : Bool) :
    Pairs (Scene.Paired S) Eq (c.exec a command input sudoable) (d.exec b command input sudoable) := by
  unfold exec
  by_cases given : input.getD [] ≠ []
  · rw [if_pos given, if_pos given]
    exact fun s t related => ⟨.error _, related⟩
  · rw [if_neg given, if_neg given]
    apply Pairs.andThen (ensureConnected_pairs around libs alike)
    intro session
    apply Pairs.andThen (openChannel_pairs libs session)
    intro channel
    apply Pairs.andThen (attempt_pairs (ofOp_pairs (runOn_pairs around libs alike channel command sudoable)))
    intro outcome
    apply Pairs.andThen (keepChannel_pairs around libs channel)
    intro _
    cases outcome with
    | error e => exact Pairs.throw e
    | ok result => exact Pairs.andThen (tell_pairs around _ _) fun _ => Pairs.pure rfl

theorem putFile_pairs (around : Outside.Surrounds blur S) (libs : Library.Parallel blur S a b)
    (alike : c.Alike blur d) (source target : String) (protocol : TransferProtocol) :
    Pairs (Scene.Paired S) Eq (c.putFile a source target protocol) (d.putFile b source target protocol) := by
  apply Pairs.andThen (tell_pairs around _ _)
  intro _
  apply Pairs.get_bind
  intro s t related
  extract_lets rest other
  have rest_pairs : Pairs (Scene.Paired S) Eq (rest ()) (other ()) := by
    apply Pairs.andThen (ensureConnected_pairs around libs alike)
    intro session
    cases protocol with
    | sftp =>
        apply Pairs.andThen (openingSftp_pairs (ofOp_pairs (libs.openSftp session)))
        intro handle
        apply Pairs.andThen (hold_pairs _)
        intro _
        exact ofIo_pairs (libs.sftpPut handle source target) _
    | scp =>
        apply Pairs.andThen (ofOp_pairs (libs.openScp session))
        intro handle
        exact ofIo_pairs (libs.scpPut handle source target) _
  rw [around.present _ _ source related.outside]
  by_cases present : t.outside.files.exists? source = true
  · rw [if_pos present, if_pos present]
    exact rest_pairs
  · rw [if_neg present, if_neg present]
    exact fun s t related => ⟨.error _, related⟩

theorem fetchFile_pairs (around : Outside.Surrounds blur S) (libs : Library.Parallel blur S a b)
    (alike : c.Alike blur d) (source target : String) (protocol : TransferProtocol) :
    Pairs (Scene.Paired S) Eq (c.fetchFile a source target protocol) (d.fetchFile b source target protocol) := by
  apply Pairs.andThen (tell_pairs around _ _)
  intro _
  cases protocol with
  | sftp =>
      apply Pairs.andThen (openingSftp_pairs (connectSftp_pairs around libs alike))
      intro handle
      apply Pairs.andThen (hold_pairs _)
      intro _
      exact ofIo_pairs (libs.sftpGet handle source target) _
  | scp =>
      apply Pairs.andThen (ensureConnected_pairs around libs alike)
      intro session
      apply Pairs.andThen (ofOp_pairs (libs.openScp session))
      intro handle
      exact ofIo_pairs (libs.scpGet handle source target) _

theorem release_pairs (take : Held → Option Nat × Held) {x : Nat → Op σ Unit} {y : Nat → Op υ Unit}
    (same : ∀ id, Pairs S Eq (x id) (y id)) : Pairs (Scene.Paired S) Eq (release take x) (release take y) := by
  apply Pairs.andThen held_pairs
  intro h
  apply Pairs.andThen (hold_pairs _)
  intro _
  cases (take h).1 with
  | some id => exact ofOp_pairs (same id)
  | none => exact Pairs.pure rfl

theorem close_pairs (around : Outside.Surrounds blur S) (libs : Library.Parallel blur S a b)
    (alike : c.Alike blur d) : Pairs (Scene.Paired S) Eq (c.close a) (d.close b) := by
  have evicts : Pairs (Scene.Paired S) Eq (c.evict : Act σ Unit) (d.evict : Act υ Unit) := by
    unfold evict
    rw [identity, identity, alike.seat]
    apply Pairs.andThen (tell_pairs around _ _)
    intro _
    apply Pairs.modify
    intro s t related
    exact related.recached fun cache => ⟨(cache.sessions.remove c.seat).2, (cache.sftp.remove c.seat).2⟩
  unfold close
  rw [identity, identity, alike.seat]
  apply Pairs.andThen evicts
  intro _
  apply Pairs.andThen (release_pairs _ libs.closeSftp)
  intro _
  apply Pairs.andThen (release_pairs _ libs.closeChannel)
  intro _
  apply Pairs.andThen (release_pairs _ libs.closeSession)
  intro _
  apply Pairs.andThen (hold_pairs _)
  intro _
  exact tell_pairs around _ _

theorem reset_pairs (around : Outside.Surrounds blur S) (libs : Library.Parallel blur S a b)
    (alike : c.Alike blur d) : Pairs (Scene.Paired S) Eq (c.reset a) (d.reset b) := by
  apply Pairs.andThen (close_pairs around libs alike)
  intro _
  apply Pairs.andThen (hold_pairs _)
  intro _
  exact connect_pairs around libs alike

end Connection

inductive Reply where
  | done
  | session (id : SessionId)
  | handle (id : SftpId)
  | result (r : CommandResult)
deriving DecidableEq

namespace Operation

def answer (lib : Library σ) (c : Connection) : Operation → Act σ Reply
  | .connect => .session <$> c.connect lib
  | .ensureConnected => .session <$> c.ensureConnected lib
  | .connectSftp => .handle <$> c.connectSftp lib
  | .exec command input sudoable => .result <$> c.exec lib command input sudoable
  | .putFile source target protocol => (fun _ => .done) <$> c.putFile lib source target protocol
  | .fetchFile source target protocol => (fun _ => .done) <$> c.fetchFile lib source target protocol
  | .close => (fun _ => .done) <$> c.close lib
  | .reset => .session <$> c.reset lib

theorem act_answer (lib : Library σ) (c : Connection) (operation : Operation) :
    operation.act lib c = (do let _ ← operation.answer lib c) := by
  cases operation with
  | connect => simp only [act, answer, bind_map_left]
  | ensureConnected => simp only [act, answer, bind_map_left]
  | connectSftp => simp only [act, answer, bind_map_left]
  | exec command input sudoable => simp only [act, answer, bind_map_left]
  | putFile source target protocol => simp only [act, answer, bind_map_left, bind_pure_unit]
  | fetchFile source target protocol => simp only [act, answer, bind_map_left, bind_pure_unit]
  | close => simp only [act, answer, bind_map_left, bind_pure_unit]
  | reset => simp only [act, answer, bind_map_left]

open Connection in
theorem answer_pairs (around : Outside.Surrounds blur S) (libs : Library.Parallel blur S a b) (alike : c.Alike blur d)
    (operation : Operation) : Pairs (Scene.Paired S) Eq (operation.answer a c) (operation.answer b d) := by
  cases operation with
  | connect => exact Pairs.map (connect_pairs around libs alike) fun _ _ => congrArg _
  | ensureConnected => exact Pairs.map (ensureConnected_pairs around libs alike) fun _ _ => congrArg _
  | connectSftp => exact Pairs.map (connectSftp_pairs around libs alike) fun _ _ => congrArg _
  | exec command input sudoable =>
      exact Pairs.map (exec_pairs around libs alike command input sudoable) fun _ _ => congrArg _
  | putFile source target protocol =>
      exact Pairs.map (putFile_pairs around libs alike source target protocol) fun _ _ _ => rfl
  | fetchFile source target protocol =>
      exact Pairs.map (fetchFile_pairs around libs alike source target protocol) fun _ _ _ => rfl
  | close => exact Pairs.map (close_pairs around libs alike) fun _ _ _ => rfl
  | reset => exact Pairs.map (reset_pairs around libs alike) fun _ _ => congrArg _

theorem act_pairs (around : Outside.Surrounds blur S) (libs : Library.Parallel blur S a b) (alike : c.Alike blur d)
    (operation : Operation) : Pairs (Scene.Paired S) Eq (operation.act a c) (operation.act b d) := by
  rw [act_answer, act_answer]
  apply Pairs.andThen (answer_pairs around libs alike operation)
  intro _
  exact Pairs.pure rfl

end Operation
end RemoteExec

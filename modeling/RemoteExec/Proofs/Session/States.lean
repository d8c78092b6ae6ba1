import RemoteExec.Proofs.Session.Closing
import RemoteExec.Proofs.Session.Holding

namespace RemoteExec

variable {σ : Type}

structure Held.Truthful (h : Held) : Prop where
  connected : h.state = .connected → h.session ≠ none
  closed : h.state = .closed → h.session = none ∧ h.channel = none ∧ h.sftp = none

def Held.Sealed (h : Held) : Prop := h.state = .closed → h.session = none ∧ h.channel = none

structure Held.Usable (h : Held) : Prop where
  connected : h.state = .connected → h.session ≠ none
  unclosed : h.state ≠ .closed

namespace Held

variable {h : Held}

theorem nothing_truthful : Held.nothing.Truthful := ⟨by simp [nothing], by simp [nothing]⟩

theorem closed_truthful : Truthful ⟨none, none, none, .closed⟩ := ⟨by simp, by simp⟩

theorem Truthful.isSealed (truthful : h.Truthful) : h.Sealed := fun closed =>
  ⟨(truthful.closed closed).1, (truthful.closed closed).2.1⟩

theorem Usable.truthful (usable : h.Usable) : h.Truthful :=
  ⟨usable.connected, fun closed => absurd closed usable.unclosed⟩

end Held

namespace Connection

variable {lib : Library σ} {c : Connection} {s t : Scene σ}

theorem connect_usable (sound : s.cache.Sound) : (c.connect lib s).2.held.Usable := by
  by_cases live : Cache.Live lib c.seat s.cache s.outside.lib
  · obtain ⟨session, registered, isOpen⟩ := live
    obtain ⟨told, ran⟩ := connect_live registered isOpen
    rw [ran]
    exact ⟨by simp, by simp⟩
  · obtain ⟨told, ran⟩ := connect_dead sound live
    rw [ran]
    cases c.connectUncached lib (s.outside.tell told) with
    | mk outcome o =>
        cases outcome with
        | ok session => exact ⟨by simp, by simp⟩
        | error e => exact ⟨by simp, by simp⟩

theorem ensureConnected_usable (sound : s.cache.Sound) (isSealed : s.held.Sealed) :
    (c.ensureConnected lib s).2.held.Usable := by
  by_cases own : OwnOpen lib s
  · obtain ⟨session, holds, isOpen⟩ := own
    rw [ensureConnected_own holds isOpen]
    exact ⟨fun _ => by simp [holds], fun closed => absurd (holds.symm.trans (isSealed closed).1) (by simp)⟩
  · rw [ensureConnected_connect own]
    exact connect_usable sound

theorem Uses.held_cases (isSealed : s.held.Sealed) (uses : Uses lib c s t) : t.held = s.held ∨ t.held.Usable := by
  cases uses with
  | idle aside same => exact Or.inl same
  | ensured before sound held sessions same aside =>
      have usable : (c.ensureConnected lib before).2.held.Usable := ensureConnected_usable sound (held ▸ isSealed)
      refine Or.inr ⟨?_, ?_⟩
      · rw [aside.state, aside.session]
        exact usable.connected
      · rw [aside.state]
        exact usable.unclosed

theorem close_sealed (lib : Library σ) (c : Connection) (isSealed : s.held.Sealed) : (c.close lib s).2.held.Sealed := by
  rcases close_held lib c s with ⟨t, ran, emptied⟩ | ⟨e, t, ran, kept, _, fewer⟩
  · rw [ran, emptied]
    exact Held.closed_truthful.isSealed
  · rw [ran]
    intro closed
    obtain ⟨session, channel⟩ := isSealed (kept.symm.trans closed)
    refine ⟨Option.eq_none_iff_forall_ne_some.mpr fun other held => ?_,
      Option.eq_none_iff_forall_ne_some.mpr fun other held => ?_⟩
    · have member := (Held.session_mem s.held other).mp (fewer _ ((Held.session_mem t.held other).mpr held))
      rw [session] at member
      cases member
    · have member := (Held.channel_mem s.held other).mp (fewer _ ((Held.channel_mem t.held other).mpr held))
      rw [channel] at member
      cases member

def LosesSession (lib : Library σ) (c : Connection) (s : Scene σ) : Prop :=
  s.held.state = .connected ∧ ∃ e t, c.close lib s = (.error e, t) ∧ t.held.session = none

theorem close_truthful_iff (truthful : s.held.Truthful) :
    (c.close lib s).2.held.Truthful ↔ ¬ LosesSession lib c s := by
  rcases close_held lib c s with ⟨t, ran, emptied⟩ | ⟨e, t, ran, kept, some_held, _⟩
  · refine ⟨fun _ loses => ?_, fun _ => ?_⟩
    · obtain ⟨_, e, u, failed, _⟩ := loses
      rw [ran] at failed
      cases failed
    · rw [ran, emptied]
      exact Held.closed_truthful
  · rw [ran]
    constructor
    · rintro after ⟨connected, f, u, failed, gone⟩
      rw [ran] at failed
      cases failed
      exact after.connected (kept.trans connected) gone
    · intro keeps
      refine ⟨fun connected gone => keeps ⟨kept.symm.trans connected, e, t, ran, gone⟩, fun closed => ?_⟩
      -- Whoever is closed holds nothing, so nothing can fail to be closed.
      obtain ⟨session, channel, sftp⟩ := truthful.closed (kept.symm.trans closed)
      exact absurd (by simp [Held.things, session, channel, sftp]) some_held

theorem reset_held (lib : Library σ) (c : Connection) (sound : s.cache.Sound) :
    (c.reset lib s).2.held.Usable ∨ ∃ e t, c.close lib s = (.error e, t) ∧ (c.reset lib s).2 = t := by
  rcases reset_cases lib c s with ⟨e, t, failed, same⟩ | ⟨t, closed, same⟩
  · exact Or.inr ⟨e, t, failed, by rw [same]⟩
  · rw [same]
    refine Or.inl (connect_usable ?_)
    show t.cache.Sound
    rw [close_cache closed]
    exact sound.without c.seat

-- The operations after which the state of a connection does not tell what it holds.
inductive Misleads (lib : Library σ) (c : Connection) (s : Scene σ) : Operation → Prop where
  | close (loses : LosesSession lib c s) : Misleads lib c s .close
  | reset (loses : LosesSession lib c s) : Misleads lib c s .reset
  | fetch (source target : String) (handle : SftpId) (closed : s.held.state = .closed)
      (registered : s.cache.sftp.get? c.seat = some handle) : Misleads lib c s (.fetchFile source target .sftp)

theorem operation_sealed (sound : s.cache.Sound) (isSealed : s.held.Sealed) (operation : Operation) :
    (operation.act lib c s).2.held.Sealed := by
  cases operation_course lib c sound operation with
  | connects same =>
      rw [same, Operation.act, scene_unread]
      exact (connect_usable sound).truthful.isSealed
  | closes same =>
      rw [same]
      exact close_sealed lib c isSealed
  | resets same =>
      rw [same, Operation.act, scene_unread]
      rcases reset_held lib c sound with usable | ⟨e, t, ran, ended⟩
      · exact usable.truthful.isSealed
      · have after := close_sealed lib c isSealed
        rw [ran] at after
        rw [ended]
        exact after
  | through source target handle same registered =>
      rw [same, Operation.act, (fetch_through registered).2]
      exact isSealed
  | uses uses =>
      rcases uses.held_cases isSealed with same | usable
      · rw [same]
        exact isSealed
      · exact usable.truthful.isSealed

theorem reset_truthful (sound : s.cache.Sound) (truthful : s.held.Truthful) (keeps : ¬ LosesSession lib c s) :
    (c.reset lib s).2.held.Truthful := by
  rcases reset_held lib c sound with usable | ⟨e, t, ran, ended⟩
  · exact usable.truthful
  · have after := (close_truthful_iff truthful).mpr keeps
    rw [ran] at after
    rw [ended]
    exact after

theorem operation_truthful (sound : s.cache.Sound) (truthful : s.held.Truthful) {operation : Operation}
    (leads : ¬ Misleads lib c s operation) : (operation.act lib c s).2.held.Truthful := by
  cases operation_course lib c sound operation with
  | connects same =>
      rw [same, Operation.act, scene_unread]
      exact (connect_usable sound).truthful
  | closes same =>
      rw [same] at leads ⊢
      exact (close_truthful_iff truthful).mpr fun loses => leads (.close loses)
  | resets same =>
      rw [same] at leads ⊢
      rw [Operation.act, scene_unread]
      exact reset_truthful sound truthful fun loses => leads (.reset loses)
  | through source target handle same registered =>
      rw [same] at leads ⊢
      rw [Operation.act, (fetch_through registered).2]
      exact ⟨truthful.connected, fun closed => absurd (.fetch source target handle closed registered) leads⟩
  | uses uses =>
      rcases uses.held_cases truthful.isSealed with same | usable
      · rw [same]
        exact truthful
      · exact usable.truthful

theorem operation_untruthful (truthful : s.held.Truthful) {operation : Operation}
    (misleads : Misleads lib c s operation) : ¬ (operation.act lib c s).2.held.Truthful := by
  cases misleads with
  | close loses => exact fun after => (close_truthful_iff truthful).mp after loses
  | reset loses =>
      have untruthful : ¬ (c.close lib s).2.held.Truthful := fun after => (close_truthful_iff truthful).mp after loses
      obtain ⟨_, e, t, failed, _⟩ := loses
      rw [failed] at untruthful
      rw [Operation.act, scene_unread, reset_failed failed]
      exact untruthful
  | fetch source target handle closed registered =>
      rw [Operation.act, (fetch_through registered).2]
      exact fun after => absurd (after.closed closed).2.2 (by simp)

theorem Misleads.held {operation : Operation} (misleads : Misleads lib c s operation) : s.held ≠ Held.nothing := by
  intro nothing
  have apart : s.held.state = .connected ∨ s.held.state = .closed := by
    cases misleads with
    | close loses => exact Or.inl loses.1
    | reset loses => exact Or.inl loses.1
    | fetch source target handle closed registered => exact Or.inr closed
  rw [nothing] at apart
  rcases apart with connected | closed
  · cases connected
  · cases closed

end Connection

namespace World

def Truthful (w : World σ) : Prop := ∀ m ∈ w.members, m.held.Truthful

def Misleads (lib : Library σ) (w : World (Recorded σ)) : Happening σ → Prop
  | .act i c operation => Connection.Misleads lib.recorded c (w.scene i) operation
  | .server _ => False

variable {lib : Library σ}

theorem scene_held (w : World σ) {P : Held → Prop} (all : ∀ m ∈ w.members, P m.held) (nothing : P Held.nothing)
    (i : Nat) : P (w.scene i).held := by
  simp only [scene]
  cases found : w.members[i]? with
  | none => exact nothing
  | some m => exact all m (List.mem_of_getElem? found)

theorem step_members (w : World (Recorded σ)) (i : Nat) (c : Connection) (operation : Operation) {P : Held → Prop}
    (all : ∀ m ∈ w.members, P m.held) (own : P (operation.act lib.recorded c (w.scene i)).2.held) :
    ∀ m ∈ (step lib w (.act i c operation)).members, P m.held := by
  intro m member
  rcases List.mem_or_eq_of_mem_set member with older | fresh
  · exact all m older
  · rw [fresh]
    exact own

theorem step_truthful_iff (w : World (Recorded σ)) (happening : Happening σ) (sound : w.cache.Sound)
    (truthful : w.Truthful) : (step lib w happening).Truthful ↔ ¬ Misleads lib w happening := by
  cases happening with
  | server change => exact ⟨fun _ misleads => misleads, fun _ => truthful⟩
  | act i c operation =>
      have own : (w.scene i).held.Truthful := scene_held w truthful Held.nothing_truthful i
      refine ⟨fun after misleads => ?_, fun leads => ?_⟩
      · have known : i < w.members.length := by
          refine Nat.lt_of_not_le fun outside => Connection.Misleads.held misleads ?_
          simp [scene, List.getElem?_eq_none outside]
        refine Connection.operation_untruthful own misleads ?_
        exact after ⟨(operation.act lib.recorded c (w.scene i)).2.held, _⟩ (List.mem_set known _)
      · exact step_members w i c operation truthful (Connection.operation_truthful (s := w.scene i) sound own leads)

theorem step_sealed (w : World (Recorded σ)) (happening : Happening σ) (sound : w.cache.Sound)
    (isSealed : ∀ m ∈ w.members, m.held.Sealed) : ∀ m ∈ (step lib w happening).members, m.held.Sealed := by
  cases happening with
  | server change => exact isSealed
  | act i c operation =>
      have own : (w.scene i).held.Sealed := scene_held w isSealed Held.nothing_truthful.isSealed i
      exact step_members w i c operation isSealed (Connection.operation_sealed (s := w.scene i) sound own operation)

theorem Fresh.truthful {start : World (Recorded σ)} (fresh : Fresh start) : start.Truthful := by
  intro m member
  rw [fresh.members m member]
  exact Held.nothing_truthful

theorem states_truthful_iff (lib : Library σ) (start : World (Recorded σ)) (fresh : Fresh start)
    (happenings : List (Happening σ)) :
    ((∀ n, (run lib (happenings.take n) start).Truthful) ↔
      ∀ n happening, happenings[n]? = some happening → ¬ Misleads lib (run lib (happenings.take n) start) happening) ∧
    ∀ n, ∀ m ∈ (run lib (happenings.take n) start).members, m.held.Sealed := by
  have sound (n : Nat) : (run lib (happenings.take n) start).cache.Sound :=
    (run_consistent (happenings.take n) start fresh.consistent).sound
  refine ⟨run_always_iff sound fresh.truthful fun w happening _ => step_truthful_iff w happening, ?_⟩
  refine fun n => (run_always (P := fun w => Consistent w.cache w.lib ∧ ∀ m ∈ w.members, m.held.Sealed)
    ⟨fresh.consistent, fun m member => (fresh.truthful m member).isSealed⟩ ?_ n).2
  intro w happening _ both
  exact ⟨step_consistent w happening both.1, step_sealed w happening both.1.sound both.2⟩

def lost : List (Happening Memory.State) := [.act 0 Memory.web .connect,
  .server fun s => { s with settings := { s.settings with sessionCloseFailure := some (.connection "gone") } },
  .act 0 Memory.web .close]

def borrowed : List (Happening Memory.State) := [.act 0 Memory.web .connect, .act 0 Memory.web .close,
  .act 1 Memory.web .connectSftp, .act 0 Memory.web (.fetchFile "from" "to" .sftp)]

theorem states_mislead :
    ¬ (run Memory.mock lost Memory.idle).Truthful ∧ ¬ (run Memory.mock borrowed Memory.idle).Truthful := by
  constructor
  · intro truthful
    exact (truthful _ List.mem_cons_self).connected rfl rfl
  · intro truthful
    exact absurd ((truthful _ List.mem_cons_self).closed rfl).2.2 (by decide : some 0 ≠ none)

theorem states_truthful_before : (run Memory.mock (borrowed.take 3) Memory.idle).Truthful := by
  refine (states_truthful_iff Memory.mock Memory.idle Memory.idle_fresh (borrowed.take 3)).1.mpr ?_ 3
  intro n happening next misleads
  match n, next with
  | 0, next =>
      cases next
      cases misleads
  | 1, next =>
      cases next
      cases misleads with
      | close loses =>
          obtain ⟨_, e, t, failed, _⟩ := loses
          cases failed
  | 2, next =>
      cases next
      cases misleads
  | n + 3, next => cases next

end World
end RemoteExec

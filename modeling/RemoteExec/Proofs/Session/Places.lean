import Mathlib.Data.List.Induction
import Mathlib.Data.List.Nodup
import RemoteExec.Proofs.Session.Interleaving
import RemoteExec.Proofs.Session.Memory

namespace RemoteExec

variable {σ α : Type}

def Call.channelOpened? : Call → Option ChannelId
  | .newChannel _ (.ok channel) => some channel
  | _ => none

def Call.channelClosed? : Call → Option ChannelId
  | .closeChannel channel _ => some channel
  | _ => none

namespace Recorded

def opened (l : Recorded σ) : List ChannelId := l.calls.filterMap Call.channelOpened?

def closed (l : Recorded σ) : List ChannelId := l.calls.filterMap Call.channelClosed?

end Recorded

-- What there is to know about channels apart from what commands and closings have in their hands.
structure Ledger where
  opened : List ChannelId
  held : Option ChannelId
  closed : List ChannelId

def Scene.ledger (s : Scene (Recorded σ)) : Ledger := ⟨s.outside.lib.opened, s.held.channel, s.outside.lib.closed⟩

def Library.channelless (lib : Library σ) : Library σ :=
  { lib with
    newChannel := fun _ => throw (.connection "not asked")
    closeChannel := fun _ => throw (.connection "not asked") }

def Recorded.Lists (opened closed : List ChannelId) (l : Recorded σ) : Prop := l.opened = opened ∧ l.closed = closed

theorem Recorded.Lists.noted {opened closed : List ChannelId} {l : Recorded σ} (lists : l.Lists opened closed) (state : σ)
    {call : Call} (opensNone : call.channelOpened? = none) (closesNone : call.channelClosed? = none) :
    Recorded.Lists opened closed ⟨state, l.calls ++ [call]⟩ := by
  simpa [Recorded.Lists, Recorded.opened, Recorded.closed, opensNone, closesNone] using lists

theorem Library.channelless_keeps (lib : Library σ) (opened closed : List ChannelId) :
    lib.recorded.channelless.Keeps (Recorded.Lists opened closed) := by
  have silent : ∀ {l : Recorded σ} (state : σ), l.Lists opened closed → Recorded.Lists opened closed ⟨state, l.calls ++ []⟩ := by
    intro l state lists
    simpa [Recorded.Lists, Recorded.opened, Recorded.closed] using lists
  constructor
  all_goals intros
  all_goals first
    | exact silent _ ‹_›
    | exact ‹Recorded.Lists _ _ _›.noted _ rfl rfl
    | exact fun o lists => silent _ lists
    | exact fun o lists => lists.noted _ rfl rfl
    | exact fun o lists => lists

namespace Connection

open Routine

variable {lib : Library σ} {c : Connection}

theorem asking_leaves {op : Op (Recorded σ) α} (keeps : ∀ opened closed, Op.Keeps (Recorded.Lists opened closed) op) :
    (asking op).Leaves Scene.ledger := by
  apply Leaves.once
  intro s
  obtain ⟨sameOpened, sameClosed⟩ := keeps s.outside.lib.opened s.outside.lib.closed s.outside ⟨rfl, rfl⟩
  simp only [Scene.ledger, Act.run_ofOp, sameOpened, sameClosed]

theorem tell_leaves (level : Level) (text : String) :
    (asking (Op.tell level text : Op (Recorded σ) Unit)).Leaves Scene.ledger :=
  asking_leaves fun _ _ => Op.tell_keeps level text

theorem watching_leaves (e : Escalation) (timeout : Duration) (channel : ChannelId) (fuel : Nat) (seen : Bytes) :
    (watching lib.recorded e timeout channel fuel seen).Leaves Scene.ledger := by
  have receives := fun opened closed => (lib.channelless_keeps opened closed).receive channel timeout readSize
  induction fuel generalizing seen with
  | zero => exact Leaves.raise _
  | succ fuel ih =>
      apply Leaves.bind (tell_leaves _ _)
      intro _
      apply Leaves.bind (asking_leaves receives)
      intro piece
      cases piece with
      | none => exact Leaves.raise _
      | some chunk =>
          apply Leaves.bind (tell_leaves _ _)
          intro _
          by_cases empty : chunk.isEmpty = true
          · rw [if_pos empty]
            split
            · exact Leaves.raise _
            · exact Leaves.pure _
          · rw [if_neg empty]
            cases progress : e.scan (seen ++ chunk) with
            | waiting => simpa only [progress] using ih (seen ++ chunk)
            | success => simpa only [progress] using Leaves.pure _
            | passwordPrompt => simpa only [progress] using Leaves.pure _

theorem negotiating_leaves (e : Escalation) (timeout : Duration) (channel : ChannelId) (job : Job) :
    (negotiating lib.recorded e timeout channel job).Leaves Scene.ledger := by
  have calls := lib.channelless_keeps
  apply Leaves.bind (asking_leaves fun opened closed => (calls opened closed).start channel _)
  intro _
  apply Leaves.bind (asking_leaves fun _ _ => Op.get_keeps)
  intro o
  apply Leaves.bind (watching_leaves e timeout channel _ [])
  intro watched
  apply Leaves.bind (asking_leaves fun opened closed => answerWatch_keeps ((calls opened closed).on channel) e watched)
  intro output
  apply Leaves.bind (asking_leaves fun opened closed => (calls opened closed).finish channel timeout)
  intro exit
  cases exit with
  | none => exact Leaves.raise _
  | some exit => exact Leaves.pure _

theorem running_leaves (job : Job) (channel : ChannelId) :
    (c.running lib.recorded job channel).Leaves Scene.ledger := by
  have calls := lib.channelless_keeps
  unfold running
  apply Leaves.bind
  · apply asking_leaves
    intro opened closed
    split
    · exact (calls opened closed).requestPty channel
    · exact Op.pure_keeps ()
  intro _
  apply Leaves.bind (tell_leaves _ _)
  intro _
  cases c.escalation.filter (·.expectsPrompt) with
  | some e => exact negotiating_leaves e c.options.timeout channel job
  | none => exact asking_leaves fun opened closed => (calls opened closed).exec channel job.command

theorem releasing_leaves {take : Held → Option Nat × Held} {close : Nat → Op (Recorded σ) Unit}
    (spares : ∀ h, (take h).2.channel = h.channel)
    (closes : ∀ opened closed id, Op.Keeps (Recorded.Lists opened closed) (close id)) :
    (releasing take close).Leaves Scene.ledger := by
  apply Leaves.bind
  · apply Leaves.once
    intro s
    exact congrArg (Ledger.mk _ · _) (spares s.held)
  intro thing
  cases thing with
  | some id => exact asking_leaves fun opened closed => closes opened closed id
  | none => exact Leaves.pure ()

theorem ensured_leaves (lib : Library σ) (c : Connection) :
    (once (c.ensureConnected lib.recorded)).Leaves Scene.ledger := by
  apply Leaves.once
  intro s
  have opens : Leads (fun t => t.ledger = s.ledger) (Act.ofOp (c.connectUncached lib.recorded))
      (fun t => t.ledger = s.ledger) := by
    intro t same
    have calls := lib.channelless_keeps t.outside.lib.opened t.outside.lib.closed
    have kept := connectUncached_keeps calls.dial calls.establish c t.outside ⟨rfl, rfl⟩
    rw [← same]
    exact congrArg₂ (Ledger.mk · t.held.channel ·) kept.1 kept.2
  exact ensureConnected_leads ⟨fun _ _ holds => holds, fun _ _ holds => holds, fun _ _ _ holds => holds⟩ c opens s rfl

end Connection
namespace Task

open Routine Connection

def inUse : Task σ → Option ChannelId
  | .busy channel _ => some channel
  | _ => none

def inHand : Task σ → Option ChannelId
  | .handing channel _ => some channel
  | _ => none

def Apart : Task σ → Prop
  | .opening _ connect => connect.Leaves Scene.ledger
  | .busy _ work => work.Leaves Scene.ledger
  | .leaving before => before.Leaves Scene.ledger
  | .handing _ after => ∀ closing, (after closing).Leaves Scene.ledger
  | .ending rest => rest.Leaves Scene.ledger

inductive Deed (t t' : Task σ) (a b : Ledger) : Prop where
  | nothing (inUse : t'.inUse = t.inUse) (inHand : t'.inHand = t.inHand) (same : b = a)
  | opens (channel : ChannelId) (inUse : t.inUse = none ∧ t'.inUse = some channel)
      (inHand : t.inHand = none ∧ t'.inHand = none) (same : b = { a with opened := a.opened ++ [channel] })
  | keeps (channel : ChannelId) (inUse : t.inUse = some channel ∧ t'.inUse = none)
      (inHand : t.inHand = none ∧ t'.inHand = a.held) (same : b = { a with held := some channel })
  | takes (inUse : t.inUse = none ∧ t'.inUse = none) (inHand : t.inHand = none ∧ t'.inHand = a.held)
      (same : b = { a with held := none })
  | closes (channel : ChannelId) (inUse : t.inUse = none ∧ t'.inUse = none)
      (inHand : t.inHand = some channel ∧ t'.inHand = none) (same : b = { a with closed := a.closed ++ [channel] })

variable {lib : Library σ} {c : Connection}

theorem exec_apart (job : Job) {connect : Routine (Scene (Recorded σ)) SessionId}
    (apart : connect.Leaves Scene.ledger) : (exec job connect).Apart := by
  unfold exec
  split
  · trivial
  · exact apart

theorem close_apart (lib : Library σ) (c : Connection) : (close lib c).Apart := by
  apply Leaves.bind (Leaves.once fun _ => rfl)
  intro _
  exact releasing_leaves (fun _ => rfl) fun opened closed => (lib.channelless_keeps opened closed).closeSftp

theorem report_leaves (outcome : Except Failure CommandResult) :
    (report outcome : Routine (Scene (Recorded σ)) _).Leaves Scene.ledger := by
  cases outcome with
  | error e => exact Leaves.raise e
  | ok result => exact Leaves.bind (tell_leaves _ _) fun _ => Leaves.pure _

theorem replaced_leaves (outcome : Except Failure CommandResult) (closing : Except Failure Unit) :
    (replaced outcome closing : Routine (Scene (Recorded σ)) _).Leaves Scene.ledger := by
  cases closing with
  | ok done => exact report_leaves outcome
  | error e => exact Leaves.bind (tell_leaves _ _) fun _ => report_leaves outcome

theorem emptied_leaves (closing : Except Failure Unit) : (emptied lib c closing).Leaves Scene.ledger := by
  cases closing with
  | error e => exact Leaves.raise e
  | ok done =>
      apply Leaves.bind
      · exact releasing_leaves (fun _ => rfl) fun opened closed => (lib.channelless_keeps opened closed).closeSession
      intro _
      apply Leaves.bind (Leaves.once fun _ => rfl)
      intro _
      exact Leaves.bind (tell_leaves _ _) fun _ => Leaves.pure _

theorem handOver_apart (taken : Option ChannelId)
    {after : Except Failure Unit → Routine (Scene (Recorded σ)) (Option CommandResult)}
    (apart : ∀ closing, (after closing).Leaves Scene.ledger) : (handOver taken after).Apart := by
  cases taken with
  | some channel => exact apart
  | none => exact apart _

theorem handOver_hands (taken : Option ChannelId)
    (after : Except Failure Unit → Routine (Scene (Recorded σ)) (Option CommandResult)) :
    (handOver taken after).inUse = none ∧ (handOver taken after).inHand = taken := by
  cases taken with
  | some channel => exact ⟨rfl, rfl⟩
  | none => exact ⟨rfl, rfl⟩

theorem openChannel_ledger (lib : Library σ) (session : SessionId) (s : Scene (Recorded σ)) :
    (∃ channel t, openChannel lib.recorded session s = (.ok channel, t) ∧
      t.ledger = { s.ledger with opened := s.ledger.opened ++ [channel] }) ∨
    (∃ e t, openChannel lib.recorded session s = (.error e, t) ∧ t.ledger = s.ledger) := by
  obtain ⟨outcome, after, _, asked⟩ := lib.recorded_newChannel session s.outside
  simp only [openChannel, run_bind, Act.run_attempt, Act.run_ofOp, asked]
  cases outcome with
  | ok channel =>
      refine Or.inl ⟨channel, _, rfl, ?_⟩
      simp [Scene.ledger, Recorded.opened, Recorded.closed, Call.channelOpened?, Call.channelClosed?]
  | error e =>
      refine Or.inr ⟨_, _, rfl, ?_⟩
      simp [Scene.ledger, Recorded.opened, Recorded.closed, Call.channelOpened?, Call.channelClosed?]

theorem turn_deed (lib : Library σ) (c : Connection) {t : Task σ} (apart : t.Apart) (s : Scene (Recorded σ)) :
    (t.turn lib c s).1.Apart ∧ Deed t (t.turn lib c s).1 s.ledger (t.turn lib c s).2.ledger := by
  cases t with
  | opening job connect =>
      cases connect with
      | turn change rest => exact ⟨(apart s).2, .nothing rfl rfl (apart s).1⟩
      | done outcome =>
          cases outcome with
          | error e => exact ⟨trivial, .nothing rfl rfl rfl⟩
          | ok session =>
              rcases openChannel_ledger lib session s with ⟨channel, t, opened, noted⟩ | ⟨e, t, failed, noted⟩
              · simp only [turn, opened]
                exact ⟨running_leaves job channel, .opens channel ⟨rfl, rfl⟩ ⟨rfl, rfl⟩ noted⟩
              · simp only [turn, failed]
                exact ⟨trivial, .nothing rfl rfl noted⟩
  | busy channel work =>
      cases work with
      | turn change rest => exact ⟨(apart s).2, .nothing rfl rfl (apart s).1⟩
      | done outcome =>
          obtain ⟨unused, taken⟩ := handOver_hands s.held.channel (replaced (σ := σ) outcome)
          exact ⟨handOver_apart _ (replaced_leaves outcome), .keeps channel ⟨rfl, unused⟩ ⟨rfl, taken⟩ rfl⟩
  | leaving before =>
      cases before with
      | turn change rest => exact ⟨(apart s).2, .nothing rfl rfl (apart s).1⟩
      | done outcome =>
          cases outcome with
          | error e => exact ⟨trivial, .nothing rfl rfl rfl⟩
          | ok done =>
              obtain ⟨unused, taken⟩ := handOver_hands s.held.channel (emptied lib c)
              exact ⟨handOver_apart _ emptied_leaves, .takes ⟨rfl, unused⟩ ⟨rfl, taken⟩ rfl⟩
  | handing channel after =>
      refine ⟨apart _, .closes channel ⟨rfl, rfl⟩ ⟨rfl, rfl⟩ ?_⟩
      obtain ⟨outcome, after, _, asked⟩ := lib.recorded_closeChannel channel s.outside
      simp [turn, asked, Scene.ledger, Recorded.opened, Recorded.closed, Call.channelOpened?, Call.channelClosed?]
  | ending rest =>
      cases rest with
      | turn change rest => exact ⟨(apart s).2, .nothing rfl rfl (apart s).1⟩
      | done outcome => exact ⟨apart, .nothing rfl rfl rfl⟩

theorem Deed.balanced {t t' : Task σ} {a b : Ledger} (deed : Deed t t' a b) (channel : ChannelId) :
    b.opened.count channel + (t.inUse.toList.count channel + a.held.toList.count channel +
        t.inHand.toList.count channel + a.closed.count channel) =
      a.opened.count channel + (t'.inUse.toList.count channel + b.held.toList.count channel +
        t'.inHand.toList.count channel + b.closed.count channel) := by
  cases deed with
  | nothing inUse inHand same => rw [same, inUse, inHand]
  | opens opened inUse inHand same =>
      simp only [same, inUse.1, inUse.2, inHand.1, inHand.2, List.count_append, Option.toList_none, Option.toList_some,
        List.count_nil]
      omega
  | keeps kept inUse inHand same =>
      simp only [same, inUse.1, inUse.2, inHand.1, inHand.2, Option.toList_none, Option.toList_some, List.count_nil]
      omega
  | takes inUse inHand same =>
      simp only [same, inUse.1, inUse.2, inHand.1, inHand.2, Option.toList_none, List.count_nil]
      omega
  | closes closed inUse inHand same =>
      simp only [same, inUse.1, inUse.2, inHand.1, inHand.2, List.count_append, Option.toList_none, Option.toList_some,
        List.count_nil]
      omega

theorem Deed.uses {t t' : Task σ} {a b : Ledger} (deed : Deed t t' a b) {channel : ChannelId}
    (busy : t'.inUse = some channel) : t.inUse = some channel ∨ b.opened = a.opened ++ [channel] := by
  cases deed with
  | nothing inUse inHand same => exact Or.inl (inUse ▸ busy)
  | opens opened inUse inHand same =>
      rw [inUse.2, Option.some.injEq] at busy
      exact Or.inr (by rw [same, busy])
  | keeps kept inUse inHand same => exact absurd (busy.symm.trans inUse.2) (by simp)
  | takes inUse inHand same => exact absurd (busy.symm.trans inUse.2) (by simp)
  | closes closed inUse inHand same => exact absurd (busy.symm.trans inUse.2) (by simp)

end Task

namespace System

-- Where an opened channel may be. It is handed to be closed from the moment on at which it is taken out of the
-- connection for that.
inductive Place where
  | inUse
  | held
  | handed
deriving DecidableEq

theorem Place.unique (amount : Place → Nat) (sum : amount .inUse + amount .held + amount .handed = 1) :
    ∃! place, 0 < amount place := by
  have only : ∀ place, 0 < amount place → ∀ other, 0 < amount other → other = place := by
    intro place here other there
    cases place <;> cases other <;> first | rfl | omega
  rcases Nat.eq_zero_or_pos (amount .inUse) with unused | inUse
  · rcases Nat.eq_zero_or_pos (amount .held) with free | held
    · have handed : 0 < amount .handed := by omega
      exact ⟨.handed, handed, only .handed handed⟩
    · exact ⟨.held, held, only .held held⟩
  · exact ⟨.inUse, inUse, only .inUse inUse⟩

def channels (y : System σ) : Place → List ChannelId
  | .inUse => y.tasks.filterMap Task.inUse
  | .held => y.scene.held.channel.toList
  | .handed => y.tasks.filterMap Task.inHand ++ y.scene.outside.lib.closed

def opened (y : System σ) : List ChannelId := y.scene.outside.lib.opened

structure Fresh (y : System σ) : Prop where
  tasks : y.tasks = []
  ledger : y.scene.ledger = ⟨[], none, []⟩

-- What is not told of commands and closings leaves channels alone: the way in which a command gets its session, and
-- all that happens elsewhere.
def Event.Proper : Event σ → Prop
  | .exec _ connect => connect.Leaves Scene.ledger
  | .elsewhere change => ∀ s, (change s).ledger = s.ledger
  | _ => True

structure Balanced (y : System σ) : Prop where
  apart : ∀ task ∈ y.tasks, task.Apart
  balance : ∀ channel, y.opened.count channel =
    (y.channels .inUse).count channel + (y.channels .held).count channel + (y.channels .handed).count channel

theorem count_filterMap_set {β : Type} (f : β → Option ChannelId) (l : List β) (i : Nat) {x : β} (y : β)
    (found : l[i]? = some x) (channel : ChannelId) :
    ((l.set i y).filterMap f).count channel + (f x).toList.count channel =
      (l.filterMap f).count channel + (f y).toList.count channel := by
  induction l generalizing i with
  | nil => simp at found
  | cons first rest ih =>
      have split : ∀ z (zs : List β), ((z :: zs).filterMap f).count channel =
          (f z).toList.count channel + (zs.filterMap f).count channel := by
        intro z zs
        cases taken : f z with
        | none => simp [taken]
        | some other => simp [taken, List.count_cons, Nat.add_comm]
      cases i with
      | zero =>
          simp only [List.getElem?_cons_zero, Option.some.injEq] at found
          rw [List.set_cons_zero, split, split, found]
          omega
      | succ i =>
          simp only [List.getElem?_cons_succ] at found
          have later := ih i found
          rw [List.set_cons_succ, split, split]
          omega

variable {lib : Library σ} {c : Connection}

theorem step_balanced {y : System σ} (balanced : Balanced y) {event : Event σ} (proper : event.Proper) :
    Balanced (step lib c y event) := by
  have added : ∀ {task : Task σ}, task.Apart → task.inUse = none → task.inHand = none →
      Balanced { y with tasks := y.tasks ++ [task] } := by
    intro task apart unused untaken
    refine ⟨?_, fun channel => ?_⟩
    · intro other among
      rcases List.mem_append.mp among with old | new
      · exact balanced.apart other old
      · rw [List.mem_singleton.mp new]
        exact apart
    · have balance := balanced.balance channel
      simpa [channels, opened, List.filterMap_append, unused, untaken] using balance
  cases event with
  | exec job connect =>
      apply added (Task.exec_apart job proper)
      · unfold Task.exec
        split
        · rfl
        · rfl
      · unfold Task.exec
        split
        · rfl
        · rfl
  | close => exact added (Task.close_apart lib c) rfl rfl
  | elsewhere change =>
      have same : (change y.scene).ledger = y.scene.ledger := proper y.scene
      simp only [Scene.ledger, Ledger.mk.injEq] at same
      refine ⟨balanced.apart, fun channel => ?_⟩
      have balance := balanced.balance channel
      simp only [step, channels, opened, same] at balance ⊢
      exact balance
  | turn i =>
      cases found : y.tasks[i]? with
      | none => simpa only [step, found] using balanced
      | some task =>
          obtain ⟨apart, deed⟩ := Task.turn_deed lib c (balanced.apart task (List.mem_of_getElem? found)) y.scene
          simp only [step, found]
          refine ⟨?_, fun channel => ?_⟩
          · intro other among
            rcases List.mem_or_eq_of_mem_set among with old | new
            · exact balanced.apart other old
            · rw [new]
              exact apart
          · have before := balanced.balance channel
            have moved := deed.balanced channel
            have using_ := count_filterMap_set Task.inUse y.tasks i (task.turn lib c y.scene).1 found channel
            have handing := count_filterMap_set Task.inHand y.tasks i (task.turn lib c y.scene).1 found channel
            simp only [Scene.ledger] at moved
            simp only [channels, opened, List.count_append] at before ⊢
            omega

theorem run_balanced (lib : Library σ) (c : Connection) {start : System σ} (balanced : Balanced start)
    (events : List (Event σ)) (proper : ∀ event ∈ events, event.Proper) : Balanced (run lib c events start) := by
  induction events generalizing start with
  | nil => exact balanced
  | cons event later ih =>
      obtain ⟨first, rest⟩ := List.forall_mem_cons.mp proper
      exact ih (step_balanced balanced first) rest

theorem Fresh.balanced {start : System σ} (fresh : Fresh start) : Balanced start := by
  have ledger := fresh.ledger
  simp only [Scene.ledger, Ledger.mk.injEq] at ledger
  refine ⟨?_, fun channel => ?_⟩
  · simp [fresh.tasks]
  · simp [channels, opened, fresh.tasks, ledger.1, ledger.2.1, ledger.2.2]

namespace Balanced

variable {y : System σ}

theorem perm (balanced : Balanced y) :
    y.opened.Perm (y.channels .inUse ++ (y.channels .held ++ y.channels .handed)) := by
  rw [List.perm_iff_count]
  intro channel
  have balance := balanced.balance channel
  simp only [List.count_append]
  omega

theorem one_place (balanced : Balanced y) (distinct : y.opened.Nodup) {channel : ChannelId}
    (known : channel ∈ y.opened) : ∃! place, channel ∈ y.channels place := by
  have balance := balanced.balance channel
  rw [List.count_eq_one_of_mem distinct known] at balance
  simpa only [List.count_pos_iff] using
    Place.unique (fun place => (y.channels place).count channel) balance.symm

theorem closed_once (balanced : Balanced y) (distinct : y.opened.Nodup) (channel : ChannelId) :
    y.scene.outside.lib.closed.count channel ≤ 1 := by
  have balance := balanced.balance channel
  have once := List.nodup_iff_count_le_one.mp distinct channel
  simp only [channels, List.count_append] at balance
  omega

theorem all_but_one_handed (balanced : Balanced y) (idle : ∀ task ∈ y.tasks, task.inUse = none) :
    ∃ left, y.opened.Perm (left ++ y.channels .handed) ∧ left.length ≤ 1 := by
  have unused : y.channels .inUse = [] := List.filterMap_eq_nil_iff.mpr idle
  refine ⟨y.channels .held, ?_, Option.length_toList_le⟩
  simpa only [unused, List.nil_append] using balanced.perm

end Balanced
def Uses (y : System σ) (i : Nat) (channel : ChannelId) : Prop := ∃ task, y.tasks[i]? = some task ∧ task.inUse = some channel

theorem exec_unused (job : Job) (connect : Routine (Scene (Recorded σ)) SessionId) :
    (Task.exec job connect).inUse = none := by
  unfold Task.exec
  split
  · rfl
  · rfl

theorem step_uses {y : System σ} (balanced : Balanced y) {event : Event σ} {i : Nat} {channel : ChannelId}
    (uses : (step lib c y event).Uses i channel) :
    y.Uses i channel ∨ event = .turn i ∧ (step lib c y event).opened = y.opened ++ [channel] := by
  have added : ∀ {task : Task σ}, task.inUse = none →
      Uses { y with tasks := y.tasks ++ [task] } i channel → y.Uses i channel := by
    rintro task unused ⟨other, found, busy⟩
    rw [List.getElem?_append] at found
    split at found
    · exact ⟨other, found, busy⟩
    · rw [List.mem_singleton.mp (List.mem_of_getElem? found), unused] at busy
      cases busy
  cases event with
  | exec job connect => exact Or.inl (added (exec_unused job connect) uses)
  | close => exact Or.inl (added rfl uses)
  | elsewhere change => exact Or.inl uses
  | turn j =>
      cases found : y.tasks[j]? with
      | none =>
          simp only [step, found] at uses
          exact Or.inl uses
      | some task =>
          obtain ⟨-, deed⟩ := Task.turn_deed lib c (balanced.apart task (List.mem_of_getElem? found)) y.scene
          simp only [step, found] at uses ⊢
          obtain ⟨other, known, busy⟩ := uses
          by_cases same : j = i
          · subst same
            rw [List.getElem?_set_self (List.getElem?_eq_some_iff.mp found).1, Option.some.injEq] at known
            rw [← known] at busy
            rcases deed.uses busy with before | after
            · exact Or.inl ⟨task, found, before⟩
            · exact Or.inr ⟨rfl, after⟩
          · rw [List.getElem?_set_ne same] at known
            exact Or.inl ⟨other, known, busy⟩

theorem run_uses {start : System σ} (fresh : Fresh start) (events : List (Event σ))
    (proper : ∀ event ∈ events, event.Proper) {i : Nat} {channel : ChannelId}
    (uses : (run lib c events start).Uses i channel) :
    ∃ earlier later, events = earlier ++ .turn i :: later ∧
      (run lib c (earlier ++ [.turn i]) start).opened = (run lib c earlier start).opened ++ [channel] := by
  induction events using List.reverseRecOn with
  | nil =>
      obtain ⟨task, found, busy⟩ := uses
      simp [run, fresh.tasks] at found
  | append_singleton earlier event ih =>
      have properEarlier : ∀ other ∈ earlier, other.Proper := fun other among =>
        proper other (List.mem_append_left _ among)
      have balanced := run_balanced lib c fresh.balanced earlier properEarlier
      have last : run lib c (earlier ++ [event]) start = step lib c (run lib c earlier start) event :=
        List.foldl_concat ..
      rw [last] at uses
      rcases step_uses balanced uses with before | ⟨turn, opens⟩
      · obtain ⟨first, rest, split, opens⟩ := ih properEarlier before
        exact ⟨first, rest ++ [event], by simp [split], opens⟩
      · rw [← last] at opens
        exact ⟨earlier, [], by rw [turn], turn ▸ opens⟩

theorem channel_in_one_place (lib : Library σ) (c : Connection) (start : System σ) (fresh : Fresh start)
    (events : List (Event σ)) (proper : ∀ event ∈ events, event.Proper) :
    let y := run lib c events start
    y.opened.Perm (y.channels .inUse ++ (y.channels .held ++ y.channels .handed)) ∧
    (y.opened.Nodup →
      (∀ channel ∈ y.opened, ∃! place, channel ∈ y.channels place) ∧
        ∀ channel, y.scene.outside.lib.closed.count channel ≤ 1) ∧
    (∀ i channel, y.Uses i channel → ∃ earlier later, events = earlier ++ .turn i :: later ∧
      (run lib c (earlier ++ [.turn i]) start).opened = (run lib c earlier start).opened ++ [channel]) ∧
    ((∀ task ∈ y.tasks, task.inUse = none) →
      ∃ left, y.opened.Perm (left ++ y.channels .handed) ∧ left.length ≤ 1) ∧
    (∀ job connect s, job.patience = 0 → connect.Cuts (c.ensureConnected lib.recorded) →
      Task.Ends lib c (Task.exec job connect) s
        (Task.reported (c.exec lib.recorded job.command job.input job.sudoable) s)) ∧
    ∀ s, Task.Ends lib c (Task.close lib c) s
      ((c.close lib.recorded s).1.map fun _ => none, (c.close lib.recorded s).2) := by
  have balanced := run_balanced lib c fresh.balanced events proper
  refine ⟨balanced.perm, ?_, ?_, balanced.all_but_one_handed, ?_, Task.close_ends lib c⟩
  · intro distinct
    exact ⟨fun channel known => balanced.one_place distinct known, balanced.closed_once distinct⟩
  · intro i channel uses
    exact run_uses fresh events proper uses
  · intro job connect s prompt cuts
    exact Task.exec_ends prompt cuts s

def atStuckServer : System Memory.State where
  scene := ⟨⟨⟨Memory.State.initial
    { Memory.Settings.harmless with channelCloseFailure := some (.connection "stuck") } [], []⟩, default, default, []⟩,
    Cache.empty, Held.nothing⟩
  tasks := []

def overlap : List (Event Memory.State) :=
  let command : Event Memory.State :=
    .exec ⟨"true", none, false, 0⟩ (Routine.once (Memory.web.ensureConnected Memory.mock.recorded))
  [command, command, .close] ++ [0, 0, 1, 1, 0, 0, 0, 0, 1, 1, 1, 1, 2, 2, 2].map .turn

theorem overlap_placed :
    let y := run Memory.mock Memory.web overlap atStuckServer
    y.opened = [0, 1] ∧ y.tasks.map Task.inHand = [none, some 0, some 1] ∧
      (∃! place, 0 ∈ y.channels place) ∧ ∃ left, y.opened.Perm (left ++ y.channels .handed) ∧ left.length ≤ 1 := by
  have proper : ∀ event ∈ overlap, event.Proper := by
    intro event among
    rcases List.mem_append.mp among with start | turn
    · have commands := Connection.ensured_leaves Memory.mock Memory.web
      simp only [List.mem_cons, List.not_mem_nil, or_false] at start
      rcases start with rfl | rfl | rfl
      · exact commands
      · exact commands
      · trivial
    · obtain ⟨i, _, rfl⟩ := List.mem_map.mp turn
      trivial
  have fresh : Fresh atStuckServer := ⟨rfl, rfl⟩
  obtain ⟨_, placed, _, handed, _⟩ :=
    channel_in_one_place Memory.mock Memory.web atStuckServer fresh overlap proper
  have opened : (run Memory.mock Memory.web overlap atStuckServer).opened = [0, 1] := rfl
  have idle : (run Memory.mock Memory.web overlap atStuckServer).tasks.map Task.inUse = [none, none, none] := rfl
  refine ⟨opened, rfl, (placed (by rw [opened]; decide)).1 0 (by rw [opened]; decide), handed ?_⟩
  intro task among
  have unused : task.inUse ∈ [none, none, none] := idle ▸ List.mem_map_of_mem among
  simpa using unused

end System
end RemoteExec

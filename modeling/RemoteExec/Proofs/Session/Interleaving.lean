import Mathlib.Logic.Relation
import RemoteExec.Proofs.Session.Closing
import RemoteExec.Session.Turns

namespace RemoteExec

variable {σ τ α β γ : Type}

theorem Act.ofOp_bind (op : Op σ α) (f : α → Op σ β) : ofOp (op >>= f) = ofOp op >>= fun x => ofOp (f x) := by
  funext s
  rw [run_ofOp, run_bind, run_bind, run_ofOp]
  cases op s.outside with
  | mk outcome o =>
      cases outcome with
      | ok x => rfl
      | error e => rfl

namespace Routine

@[simp] theorem run_done (outcome : Except Failure α) (s : τ) : (done outcome).run s = (outcome, s) := rfl

@[simp] theorem run_pure (x : α) (s : τ) : (pure x : Routine τ α).run s = (.ok x, s) := rfl

@[simp] theorem run_raise (e : Failure) (s : τ) : (raise e : Routine τ α).run s = (.error e, s) := rfl

@[simp] theorem run_once (a : ExceptT Failure (StateM τ) α) (s : τ) : (once a).run s = a s := rfl

@[simp] theorem run_bind (r : Routine τ α) (f : α → Routine τ β) (s : τ) :
    (r >>= f).run s = match r.run s with
      | (.ok x, t) => (f x).run t
      | (.error e, t) => (.error e, t) := by
  change (r.bind f).run s = _
  induction r generalizing s with
  | done outcome =>
      cases outcome with
      | ok x => rfl
      | error e => rfl
  | turn change rest ih => exact ih s (change s)

def Leaves (f : τ → γ) : Routine τ α → Prop
  | .done _ => True
  | .turn change rest => ∀ s, f (change s) = f s ∧ (rest s).Leaves f

namespace Leaves

variable {f : τ → γ}

theorem pure (x : α) : (Pure.pure x : Routine τ α).Leaves f := trivial

theorem raise (e : Failure) : (Routine.raise e : Routine τ α).Leaves f := trivial

theorem once {a : ExceptT Failure (StateM τ) α} (same : ∀ s, f (a s).2 = f s) : (Routine.once a).Leaves f :=
  fun s => ⟨same s, trivial⟩

theorem bind {r : Routine τ α} {g : α → Routine τ β} (first : r.Leaves f) (second : ∀ x, (g x).Leaves f) :
    (r >>= g).Leaves f := by
  change (r.bind g).Leaves f
  induction r with
  | done outcome =>
      cases outcome with
      | ok x => exact second x
      | error e => exact trivial
  | turn change rest ih => exact fun s => ⟨(first s).1, ih s (first s).2⟩

end Leaves

-- The routine comes to the operation if nothing happens between its turns.
def Cuts (r : Routine τ α) (a : ExceptT Failure (StateM τ) α) : Prop := ∀ s, r.run s = a s

namespace Cuts

theorem once (a : ExceptT Failure (StateM τ) α) : (once a).Cuts a := fun _ => rfl

theorem pure (x : α) : (Pure.pure x : Routine (Scene σ) α).Cuts (Act.ofOp (Pure.pure x)) := fun _ => rfl

theorem raise (e : Failure) : (raise e : Routine (Scene σ) α).Cuts (Act.ofOp (throw e)) := fun _ => rfl

theorem bind {r : Routine τ α} {a : ExceptT Failure (StateM τ) α} {g : α → Routine τ β}
    {f : α → ExceptT Failure (StateM τ) β} (first : r.Cuts a) (rest : ∀ x, (g x).Cuts (f x)) :
    (r >>= g).Cuts (a >>= f) := by
  intro s
  rw [run_bind, first s, RemoteExec.run_bind]
  cases a s with
  | mk outcome t =>
      cases outcome with
      | ok x => exact rest x t
      | error e => rfl

theorem ofOp {r : Routine (Scene σ) α} {op : Op σ α} {g : α → Routine (Scene σ) β} {f : α → Op σ β}
    (first : r.Cuts (Act.ofOp op)) (rest : ∀ x, (g x).Cuts (Act.ofOp (f x))) : (r >>= g).Cuts (Act.ofOp (op >>= f)) := by
  rw [Act.ofOp_bind]
  exact bind first rest

theorem asking {op : Op σ α} {g : α → Routine (Scene σ) β} {f : α → Op σ β}
    (rest : ∀ x, (g x).Cuts (Act.ofOp (f x))) : (asking op >>= g).Cuts (Act.ofOp (op >>= f)) :=
  ofOp (once _) rest

theorem skip {op : Op σ β} {g : Unit → Routine (Scene σ) β} (rest : (g ()).Cuts (Act.ofOp op)) :
    (Routine.asking (Pure.pure ()) >>= g).Cuts (Act.ofOp op) := rest

end Cuts
end Routine

namespace Connection

open Routine

theorem watching_cuts (lib : Library σ) (e : Escalation) (timeout : Duration) (channel : ChannelId) (fuel : Nat)
    (seen : Bytes) :
    (watching lib e timeout channel fuel seen).Cuts (Act.ofOp (watch lib e timeout channel fuel seen)) := by
  induction fuel generalizing seen with
  | zero => exact Cuts.raise _
  | succ fuel ih =>
      refine Cuts.asking fun _ => Cuts.asking fun piece => ?_
      cases piece with
      | none => exact Cuts.raise _
      | some chunk =>
          refine Cuts.asking fun _ => ?_
          by_cases empty : chunk.isEmpty = true
          · rw [if_pos empty, if_pos empty]
            split
            · exact Cuts.raise _
            · exact Cuts.pure _
          · rw [if_neg empty, if_neg empty]
            cases progress : e.scan (seen ++ chunk) with
            | waiting => simpa only [progress] using ih (seen ++ chunk)
            | success => simpa only [progress] using Cuts.pure _
            | passwordPrompt => simpa only [progress] using Cuts.pure _

theorem negotiating_cuts (lib : Library σ) (e : Escalation) (timeout : Duration) (channel : ChannelId) {job : Job}
    (prompt : job.patience = 0) :
    (negotiating lib e timeout channel job).Cuts (Act.ofOp (negotiate lib e timeout channel job.command)) := by
  unfold negotiating
  rw [prompt]
  refine Cuts.asking fun _ => Cuts.asking fun o => Cuts.ofOp (watching_cuts lib e timeout channel _ []) fun watched => ?_
  refine Cuts.asking fun output => Cuts.asking fun exit => ?_
  cases exit with
  | none => exact Cuts.raise _
  | some exit => exact Cuts.pure _

theorem running_cuts (lib : Library σ) (c : Connection) {job : Job} (prompt : job.patience = 0) (channel : ChannelId) :
    (c.running lib job channel).Cuts (Act.ofOp (c.runOn lib channel job.command job.sudoable)) := by
  unfold running runOn
  by_cases asked : (c.options.pty && job.sudoable) = true
  case' pos =>
    rw [if_pos asked, if_pos asked]
    refine Cuts.asking fun _ => Cuts.asking fun _ => ?_
  case' neg =>
    rw [if_neg asked, if_neg asked]
    refine Cuts.skip (Cuts.asking fun _ => ?_)
  all_goals
    cases c.escalation.filter (·.expectsPrompt) with
    | some e => exact negotiating_cuts lib e c.options.timeout channel prompt
    | none => exact Cuts.once _

def concluded : Except Failure CommandResult → Act σ CommandResult
  | .error e => throw e
  | .ok result => do
    Act.tell .debug ("Command completed: rc=" ++ toString result.returnCode ++ ", stdout_len=" ++
      toString result.stdout.length ++ ", stderr_len=" ++ toString result.stderr.length)
    return result

def told (closing : Except Failure Unit) (s : Scene σ) : Scene σ :=
  match closing with
  | .ok () => s
  | .error e => { s with
      outside := s.outside.tell [⟨.debug, "Failed to close previous channel: " ++ e.message⟩] }

theorem keepChannel_run (lib : Library σ) (channel : ChannelId) (s : Scene σ) :
    keepChannel lib channel s =
      (.ok (), match s.held.channel with
        | none => { s with held := { s.held with channel := some channel } }
        | some old => told (lib.closeChannel old s.outside).1
            { s with
              outside := (lib.closeChannel old s.outside).2
              held := { s.held with channel := some channel } }) := by
  simp only [keepChannel, Act.held, run_bind, run_get, run_pure, Act.run_hold]
  cases s.held.channel with
  | none => rfl
  | some old =>
      simp only [run_bind, Act.run_attempt, Act.run_ofOp]
      cases (lib.closeChannel old s.outside).1 with
      | ok done => rfl
      | error e => rfl

theorem exec_course {lib : Library σ} {c : Connection} {command : String} {input : Option Bytes} {sudoable : Bool}
    (unfed : ¬ input.getD [] ≠ []) : c.exec lib command input sudoable = (do
      let session ← c.ensureConnected lib
      let channel ← openChannel lib session
      let outcome ← Act.attempt (Act.ofOp (c.runOn lib channel command sudoable))
      keepChannel lib channel
      concluded outcome) := by
  unfold exec
  rw [if_neg unfed]
  refine congrArg _ (funext fun session => congrArg _ (funext fun channel => congrArg _ (funext fun outcome => ?_)))
  cases outcome with
  | ok result => rfl
  | error e => rfl

def sweeping (lib : Library σ) (c : Connection) : Act σ Unit := do
  c.evict
  release (fun h => (h.sftp, { h with sftp := none })) lib.closeSftp

def departing (lib : Library σ) (c : Connection) : Act σ Unit := do
  release (fun h => (h.session, { h with session := none })) lib.closeSession
  Act.setState .closed
  Act.tell .info ("SSH connection to " ++ c.identity.text ++ " closed")

theorem close_parts (lib : Library σ) (c : Connection) : c.close lib = (do
    c.sweeping lib
    release (fun h => (h.channel, { h with channel := none })) lib.closeChannel
    c.departing lib) := by
  simp only [close, sweeping, departing, bind_assoc]

theorem releasing_cuts (take : Held → Option Nat × Held) (close : Nat → Op σ Unit) :
    (releasing take close).Cuts (release take close) := by
  intro s
  have took : (modifyGet fun s => ((take s.held).1, { s with held := (take s.held).2 }) : Act σ (Option Nat)) s =
      (.ok (take s.held).1, { s with held := (take s.held).2 }) := rfl
  rw [release_run, releasing, Routine.run_bind, run_once, took]
  cases (take s.held).1 with
  | some id => rfl
  | none => rfl

end Connection

namespace Task

open Routine Connection

variable (lib : Library σ) (c : Connection)

abbrev Alone : Task σ × Scene (Recorded σ) → Task σ × Scene (Recorded σ) → Prop :=
  Relation.ReflTransGen fun a b => b = a.1.turn lib c a.2

def Ends (t : Task σ) (s : Scene (Recorded σ)) (result : Except Failure (Option CommandResult) × Scene (Recorded σ)) :
    Prop :=
  Alone lib c (t, s) (.ending (.done result.1), result.2)

variable {lib c} {s : Scene (Recorded σ)} {result : Except Failure (Option CommandResult) × Scene (Recorded σ)}

theorem routine_alone (place : Routine (Scene (Recorded σ)) α → Task σ)
    (turns : ∀ change rest s, (place (.turn change rest)).turn lib c s = (place (rest s), change s))
    (r : Routine (Scene (Recorded σ)) α) (s : Scene (Recorded σ)) :
    Alone lib c (place r, s) (place (.done (r.run s).1), (r.run s).2) := by
  induction r generalizing s with
  | done outcome => exact .refl
  | turn change rest ih => exact .head (turns change rest s).symm (ih s (change s))

theorem Ends.turn {t : Task σ} (later : Ends lib c (t.turn lib c s).1 (t.turn lib c s).2 result) :
    Ends lib c t s result :=
  .head rfl later

theorem ending_ends (rest : Routine (Scene (Recorded σ)) (Option CommandResult)) (s : Scene (Recorded σ)) :
    Ends lib c (.ending rest) s (rest.run s) :=
  routine_alone .ending (fun _ _ _ => rfl) rest s

theorem handOver_ends (lib : Library σ) (c : Connection) (taken : Option ChannelId)
    (after : Except Failure Unit → Routine (Scene (Recorded σ)) (Option CommandResult)) (s : Scene (Recorded σ)) :
    Ends lib c (handOver taken after) s (match taken with
      | some channel =>
        (after (lib.recorded.closeChannel channel s.outside).1).run
          { s with outside := (lib.recorded.closeChannel channel s.outside).2 }
      | none => (after (.ok ())).run s) := by
  cases taken with
  | some channel => exact Ends.turn (ending_ends _ _)
  | none => exact ending_ends _ _

def reported (a : Act (Recorded σ) CommandResult) (s : Scene (Recorded σ)) :
    Except Failure (Option CommandResult) × Scene (Recorded σ) :=
  ((a s).1.map some, (a s).2)

theorem run_replaced (outcome : Except Failure CommandResult) (closing : Except Failure Unit)
    (s : Scene (Recorded σ)) :
    (replaced outcome closing).run s = reported (concluded outcome) (told closing s) := by
  have run_report : ∀ t : Scene (Recorded σ), (report outcome).run t = reported (concluded outcome) t := by
    intro t
    cases outcome with
    | ok result => rfl
    | error e => rfl
  cases closing with
  | ok done => exact run_report s
  | error e => exact run_report (told (.error e) s)

theorem busy_ends (channel : ChannelId) (outcome : Except Failure CommandResult) (s : Scene (Recorded σ)) :
    Ends lib c (.busy channel (.done outcome)) s
      (reported (do keepChannel lib.recorded channel; concluded outcome) s) := by
  have ends := handOver_ends lib c s.held.channel (replaced outcome)
    { s with held := { s.held with channel := some channel } }
  refine Ends.turn ?_
  simp only [reported, run_bind, keepChannel_run]
  simp only [run_replaced] at ends
  cases holds : s.held.channel with
  | none =>
      rw [holds] at ends
      simp only [turn, holds]
      exact ends
  | some old =>
      rw [holds] at ends
      simp only [turn, holds]
      exact ends

theorem exec_ends {job : Job} (prompt : job.patience = 0) {connect : Routine (Scene (Recorded σ)) SessionId}
    (cuts : connect.Cuts (c.ensureConnected lib.recorded)) (s : Scene (Recorded σ)) :
    Ends lib c (exec job connect) s (reported (c.exec lib.recorded job.command job.input job.sudoable) s) := by
  unfold exec
  by_cases given : job.input.getD [] ≠ []
  · rw [if_pos given, Connection.exec, if_pos given]
    exact ending_ends _ s
  · rw [if_neg given, exec_course given, reported, run_bind]
    refine (routine_alone (.opening job) (fun _ _ _ => rfl) connect s).trans ?_
    rw [cuts s]
    cases c.ensureConnected lib.recorded s with
    | mk outcome t =>
        cases outcome with
        | error e => exact Ends.turn (ending_ends _ t)
        | ok session =>
            refine Ends.turn ?_
            simp only [turn, run_bind (openChannel _ _)]
            cases openChannel lib.recorded session t with
            | mk outcome t =>
                cases outcome with
                | error e => exact ending_ends _ t
                | ok channel =>
                    refine (routine_alone (.busy channel) (fun _ _ _ => rfl) _ t).trans ?_
                    rw [running_cuts lib.recorded c prompt channel t]
                    exact busy_ends channel _ _

theorem run_emptied (done : Unit) (s : Scene (Recorded σ)) :
    (emptied lib c (.ok done)).run s =
      ((c.departing lib.recorded s).1.map fun _ => none, (c.departing lib.recorded s).2) := by
  have cuts : (emptied lib c (.ok done)).Cuts (do c.departing lib.recorded; return none) := by
    simp only [emptied, departing, bind_assoc]
    exact Cuts.bind (releasing_cuts _ _) fun _ => Cuts.bind (Cuts.once _) fun _ => Cuts.bind (Cuts.once _) fun _ _ => rfl
  rw [cuts s, run_bind]
  cases c.departing lib.recorded s with
  | mk outcome t =>
      cases outcome with
      | ok done => rfl
      | error e => rfl

theorem close_ends (lib : Library σ) (c : Connection) (s : Scene (Recorded σ)) :
    Ends lib c (close lib c) s ((c.close lib.recorded s).1.map fun _ => none, (c.close lib.recorded s).2) := by
  have cuts : Cuts (do once c.evict; releasing (fun h => (h.sftp, { h with sftp := none })) lib.recorded.closeSftp)
      (c.sweeping lib.recorded) := Cuts.bind (Cuts.once _) fun _ => releasing_cuts _ _
  rw [close_parts, run_bind]
  refine (routine_alone .leaving (fun _ _ _ => rfl) _ s).trans ?_
  rw [cuts s]
  cases c.sweeping lib.recorded s with
  | mk outcome t =>
      cases outcome with
      | error e => exact Ends.turn (ending_ends _ t)
      | ok done =>
          have ends := handOver_ends lib c t.held.channel (emptied lib c)
            { t with held := { t.held with channel := none } }
          refine Ends.turn ?_
          simp only [run_bind, release_run]
          cases holds : t.held.channel with
          | none =>
              rw [holds] at ends
              simp only [run_emptied] at ends
              simp only [turn, holds]
              exact ends
          | some channel =>
              rw [holds] at ends
              simp only [turn, holds]
              cases closed : lib.recorded.closeChannel channel t.outside with
              | mk closing o =>
                  simp only [closed] at ends
                  cases closing with
                  | ok done =>
                      simp only [run_emptied] at ends
                      exact ends
                  | error e => exact ends

end Task

end RemoteExec

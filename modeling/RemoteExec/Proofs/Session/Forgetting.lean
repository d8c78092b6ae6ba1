import RemoteExec.Proofs.Session.Alongside

namespace RemoteExec

variable {ε σ τ υ α : Type}

def Mirrors (view : τ → υ) (a : ExceptT ε (StateM τ) α) (b : ExceptT ε (StateM υ) α) : Prop :=
  ∀ s, b (view s) = ((a s).1, view (a s).2)

theorem Pairs.mirrors {view : τ → υ} {S : τ → υ → Prop} (seen : ∀ s t, S s t ↔ t = view s)
    {a : ExceptT ε (StateM τ) α} {b : ExceptT ε (StateM υ) α} (pairs : Pairs S Eq a b) : Mirrors view a b := by
  intro s
  obtain ⟨outcomes, after⟩ := pairs s (view s) ((seen s (view s)).mpr rfl)
  exact Prod.ext outcomes.eq.symm ((seen _ _).mp after)

namespace Recorded

def scene (s : Scene (Recorded σ)) : Scene σ := ⟨plain s.outside, s.cache, s.held⟩

def Views (o : Outside (Recorded σ)) (p : Outside σ) : Prop := p = plain o

theorem views_surround : Outside.Surrounds Blur.none (Views : Outside (Recorded σ) → Outside σ → Prop) where
  told := fun o p events views => congrArg (Outside.tell · events) views
  present := fun o p path views => by rw [views]; rfl
  read := fun o p path views => by rw [views]; exact Agree.refl _

theorem paired_views_iff (s : Scene (Recorded σ)) (t : Scene σ) : Scene.Paired Views s t ↔ t = scene s := by
  constructor
  · intro paired
    cases t with
    | mk outside cache held =>
        cases paired with
        | mk views sameCache sameHeld =>
            cases views
            cases sameCache
            cases sameHeld
            rfl
  · intro same
    rw [same]
    exact ⟨rfl, rfl, rfl⟩

end Recorded

open Recorded in
theorem noting_pairs (note : Except ε α → List Call) (op : ExceptT ε (StateM (Outside σ)) α) :
    Pairs Views Eq (noting note op : ExceptT ε (StateM (Outside (Recorded σ))) α) op := by
  intro o p views
  rw [views]
  exact ⟨Agree.refl _, rfl⟩

open Recorded in
theorem Library.recorded_parallel (lib : Library σ) : Library.Parallel Blur.none Views lib.recorded lib where
  name := rfl
  version := rfl
  dial := fun r q same o p views => by
    rw [views, same.eq]
    rfl
  establish := fun r q same => same.eq ▸ noting_pairs _ _
  isClosed := fun o p session views => by rw [views]; rfl
  newChannel := fun _ => noting_pairs _ _
  openSftp := fun _ => noting_pairs _ _
  openScp := fun _ => noting_pairs _ _
  closeSession := fun _ => noting_pairs _ _
  requestPty := fun _ => noting_pairs _ _
  start := fun _ _ => noting_pairs _ _
  send := fun _ _ _ same => same ▸ noting_pairs _ _
  receive := fun _ _ _ => noting_pairs _ _
  exec := fun _ _ => noting_pairs _ _
  finish := fun _ _ => noting_pairs _ _
  closeChannel := fun _ => noting_pairs _ _
  pieces := fun o p channel views => by rw [views]; rfl
  sftpPut := fun _ _ _ => noting_pairs _ _
  sftpGet := fun _ _ _ => noting_pairs _ _
  closeSftp := fun _ => noting_pairs _ _
  scpPut := fun _ _ _ => noting_pairs _ _
  scpGet := fun _ _ _ => noting_pairs _ _

namespace Act

abbrev Mirrors (a : Act (Recorded σ) α) (b : Act σ α) : Prop := RemoteExec.Mirrors Recorded.scene a b

end Act

namespace Connection

theorem exec_mirrors (lib : Library σ) (c : Connection) (command : String) (input : Option Bytes) (sudoable : Bool) :
    Act.Mirrors (c.exec lib.recorded command input sudoable) (c.exec lib command input sudoable) := by
  apply Pairs.mirrors Recorded.paired_views_iff
  exact exec_pairs Recorded.views_surround lib.recorded_parallel (Alike.refl c) command input sudoable

theorem operation_mirrors (lib : Library σ) (c : Connection) (operation : Operation) :
    Act.Mirrors (operation.act lib.recorded c) (operation.act lib c) := by
  apply Pairs.mirrors Recorded.paired_views_iff
  exact operation.act_pairs Recorded.views_surround lib.recorded_parallel (Alike.refl c)

end Connection

namespace World

def plain (w : World (Recorded σ)) : World σ := ⟨w.lib.state, w.files, w.log, w.cache, w.members⟩

def plainStep (lib : Library σ) (w : World σ) : Happening σ → World σ
  | .act i c operation => act_ i (operation.act lib c) w
  | .server change => { w with lib := change w.lib }

theorem step_forgets (lib : Library σ) (w : World (Recorded σ)) (happening : Happening σ) :
    plain (step lib w happening) = plainStep lib (plain w) happening := by
  cases happening with
  | server change => rfl
  | act i c operation =>
      have same : (operation.act lib c) ((plain w).scene i) = _ :=
        Connection.operation_mirrors lib c operation (w.scene i)
      simp only [step, plainStep, act_, act, same]
      rfl

theorem run_forgets (lib : Library σ) (happenings : List (Happening σ)) (w : World (Recorded σ)) :
    plain (run lib happenings w) = happenings.foldl (plainStep lib) (plain w) := by
  induction happenings generalizing w with
  | nil => rfl
  | cons first rest ih =>
      have later := ih (step lib w first)
      rw [step_forgets] at later
      exact later

end World
end RemoteExec

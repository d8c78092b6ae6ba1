import RemoteExec.Proofs.Escalation.Scanning
import RemoteExec.Proofs.Session.Steps
import RemoteExec.Session.Exec

namespace RemoteExec.Connection

variable {σ : Type}

section Looks

variable (lib : Library σ) (timeout : Duration) (channel : ChannelId) (e : Escalation) (o : Outside σ)

def look : Except Failure (Option Bytes) × Outside σ :=
  lib.receive channel timeout readSize (o.tell [⟨.debug, "Waiting for privilege escalation input"⟩])

def looked : Nat → Outside σ
  | 0 => o
  | n + 1 =>
    match look lib timeout channel (looked n) with
    | (.ok (some chunk), after) => after.tell [⟨.debug, "chunk is: " ++ chunk.lossy⟩]
    | (_, after) => after

def reply (n : Nat) : Except Failure (Option Bytes) := (look lib timeout channel (looked lib timeout channel o n)).1

def piece (n : Nat) : Bytes :=
  match reply lib timeout channel o n with
  | .ok (some chunk) => chunk
  | _ => []

def output : Nat → Bytes
  | 0 => []
  | n + 1 => output n ++ piece lib timeout channel o n

def Continues (n : Nat) : Prop :=
  piece lib timeout channel o n ≠ [] ∧ e.scan (output lib timeout channel o (n + 1)) = .waiting

structure Settles (n : Nat) : Prop where
  before : ∀ m, m < n → Continues lib timeout channel e o m
  now : ¬ Continues lib timeout channel e o n

def ending (n : Nat) : Except Failure (Watch × Bytes) :=
  match reply lib timeout channel o n with
  | .error failure => .error failure
  | .ok none => .error (.timeout (output lib timeout channel o n).lossy)
  | .ok (some chunk) =>
    if chunk.isEmpty then
      if Bytes.contains (Bytes.ofString "unknown user") (output lib timeout channel o n) then
        .error (.escalation ("user " ++ e.user ++ " does not exist"))
      else .ok (.closed, output lib timeout channel o n)
    else if e.scan (output lib timeout channel o (n + 1)) = .success then
      .ok (.success, output lib timeout channel o (n + 1))
    else .ok (.passwordPrompt, output lib timeout channel o (n + 1))

theorem look_reply (n : Nat) : ∃ after,
    look lib timeout channel (looked lib timeout channel o n) = (reply lib timeout channel o n, after) :=
  ⟨_, rfl⟩

end Looks

section Watch

variable {lib : Library σ} {timeout : Duration} {channel : ChannelId} {e : Escalation} {o : Outside σ}

theorem piece_reply {n : Nat} (given : piece lib timeout channel o n ≠ []) :
    reply lib timeout channel o n = .ok (some (piece lib timeout channel o n)) := by
  unfold piece at given ⊢
  cases replied : reply lib timeout channel o n with
  | error failure => simp [replied] at given
  | ok chunk =>
      cases chunk with
      | none => simp [replied] at given
      | some chunk => rfl

theorem watch_continues {n : Nat} (continues : Continues lib timeout channel e o n) (fuel : Nat) :
    watch lib e timeout channel (fuel + 1) (output lib timeout channel o n) (looked lib timeout channel o n) =
      watch lib e timeout channel fuel (output lib timeout channel o (n + 1)) (looked lib timeout channel o (n + 1)) := by
  have replied := piece_reply continues.1
  obtain ⟨after, answer⟩ := look_reply lib timeout channel o n
  rw [replied] at answer
  have given : (piece lib timeout channel o n).isEmpty = false := by simpa using continues.1
  have waiting : e.scan (output lib timeout channel o n ++ piece lib timeout channel o n) = .waiting := continues.2
  have asked := answer
  rw [look] at asked
  simp only [watch, run_bind, Op.run_tell, asked, given, Bool.false_eq_true, if_false, waiting, looked, output, answer]

theorem watch_ends {n : Nat} (ends : ¬ Continues lib timeout channel e o n) (fuel : Nat) :
    watch lib e timeout channel (fuel + 1) (output lib timeout channel o n) (looked lib timeout channel o n) =
      (ending lib timeout channel e o n, looked lib timeout channel o (n + 1)) := by
  obtain ⟨after, answer⟩ := look_reply lib timeout channel o n
  have asked := answer
  rw [look] at asked
  simp only [watch, run_bind, Op.run_tell, asked, looked, ending, answer]
  cases replied : reply lib timeout channel o n with
  | error failure => rfl
  | ok chunk =>
      cases chunk with
      | none => rfl
      | some chunk =>
          have same : piece lib timeout channel o n = chunk := by simp [piece, replied]
          by_cases empty : chunk.isEmpty = true
          · simp only [run_bind, Op.run_tell, empty, if_true]
            split
            · rfl
            · rfl
          · have given : piece lib timeout channel o n ≠ [] := by simpa [same] using empty
            simp only [run_bind, Op.run_tell, empty, output, same]
            cases progress : e.scan (output lib timeout channel o n ++ chunk) with
            | waiting => exact absurd ⟨given, by rw [output, same, progress]⟩ ends
            | success => simp
            | passwordPrompt => simp

-- The induction is on the fuel: the watch ends at the first look that gives it reason to, unless it may not
-- look so often.
theorem watch_cases (lib : Library σ) (timeout : Duration) (channel : ChannelId) (e : Escalation) (o : Outside σ)
    (fuel n : Nat) (before : ∀ m, m < n → Continues lib timeout channel e o m) :
    (∃ last, last < n + fuel ∧ Settles lib timeout channel e o last ∧
      watch lib e timeout channel fuel (output lib timeout channel o n) (looked lib timeout channel o n) =
        (ending lib timeout channel e o last, looked lib timeout channel o (last + 1))) ∨
    ((∀ m, m < n + fuel → Continues lib timeout channel e o m) ∧
      watch lib e timeout channel fuel (output lib timeout channel o n) (looked lib timeout channel o n) =
        (.error (.timeout (output lib timeout channel o (n + fuel)).lossy), looked lib timeout channel o (n + fuel))) := by
  induction fuel generalizing n with
  | zero => exact Or.inr ⟨before, rfl⟩
  | succ fuel ih =>
      by_cases continues : Continues lib timeout channel e o n
      · have longer : ∀ m, m < n + 1 → Continues lib timeout channel e o m := by
          intro m bound
          by_cases last : m = n
          · rw [last]
            exact continues
          · exact before m (by omega)
        have later := ih (n + 1) longer
        rw [watch_continues continues]
        rw [show n + 1 + fuel = n + (fuel + 1) from by omega] at later
        exact later
      · exact Or.inl ⟨n, by omega, ⟨before, continues⟩, watch_ends continues fuel⟩

theorem Settles.unique {n m : Nat} (one : Settles lib timeout channel e o n) (other : Settles lib timeout channel e o m) :
    n = m := by
  rcases Nat.lt_trichotomy n m with less | same | more
  · exact absurd (other.before n less) one.now
  · exact same
  · exact absurd (one.before m more) other.now

theorem watch_run (lib : Library σ) (timeout : Duration) (channel : ChannelId) (e : Escalation) (o : Outside σ)
    (fuel : Nat) :
    (∃ last, last < fuel ∧ Settles lib timeout channel e o last ∧
      watch lib e timeout channel fuel [] o =
        (ending lib timeout channel e o last, looked lib timeout channel o (last + 1))) ∨
    ((∀ m, m < fuel → Continues lib timeout channel e o m) ∧
      watch lib e timeout channel fuel [] o =
        (.error (.timeout (output lib timeout channel o fuel).lossy), looked lib timeout channel o fuel)) := by
  have none_before : ∀ m, m < 0 → Continues lib timeout channel e o m := fun m bound => absurd bound (Nat.not_lt_zero m)
  have cases_from := watch_cases lib timeout channel e o fuel 0 none_before
  rw [Nat.zero_add] at cases_from
  exact cases_from

theorem watch_settles {n fuel : Nat} (settles : Settles lib timeout channel e o n) (enough : n < fuel) :
    watch lib e timeout channel fuel [] o =
      (ending lib timeout channel e o n, looked lib timeout channel o (n + 1)) := by
  rcases watch_run lib timeout channel e o fuel with ⟨last, _, found, ran⟩ | ⟨endless, _⟩
  · rw [settles.unique found]
    exact ran
  · exact absurd (endless n enough) settles.now

end Watch
end RemoteExec.Connection

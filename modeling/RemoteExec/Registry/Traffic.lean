import Mathlib.Logic.Function.Basic
import RemoteExec.Registry.Race
/-!
Calls that ask a registry for a value, cut at every point where they let go of it: others may remove keys
or ask for values in between, also between the failure of a creation and the cleaning up after it.
-/
namespace RemoteExec.Registry

variable {κ α : Type} [DecidableEq κ]

abbrev Contents (κ α : Type) := κ → Option α

inductive Doing where
  | waiting
  | creating
  | failed
deriving DecidableEq

structure Call (κ : Type) where
  key : κ
  cell : Nat
  doing : Doing

structure Traffic (κ α : Type) where
  registry : Registry κ α
  calls : Nat → Option (Call κ)

inductive Move (κ α : Type) where
  | enter (i : Nat) (key : κ)
  | find (i : Nat)
  | begin (i : Nat)
  | make (i : Nat) (value : α)
  | fail (i : Nat)
  | clean (i : Nat)
  | cancel (i : Nat)
  | remove (key : κ)
  | removeIf (key : κ) (stale : α → Bool)

def Move.caller? : Move κ α → Option Nat
  | .enter i _ => some i
  | .find i => some i
  | .begin i => some i
  | .make i _ => some i
  | .fail i => some i
  | .clean i => some i
  | _ => none

def Move.Removes (key : κ) (value : α) : Move κ α → Prop
  | .remove other => other = key
  | .removeIf other stale => other = key ∧ stale value = true
  | _ => False

-- The moves that may be made while something happens to a race: in a turn those of the one call, else the removal itself.
def Move.By : Race.Event κ α → Move κ α → Prop
  | .turn i, m => m.caller? = some i
  | .remove key, m => m = .remove key
  | .removeIf key stale, m => m = .removeIf key stale

namespace Traffic

def quiet : Traffic κ α := ⟨Registry.empty, fun _ => none⟩

def contents (t : Traffic κ α) : Contents κ α := t.registry.get?

def setCall (t : Traffic κ α) (i : Nat) (call : Option (Call κ)) : Traffic κ α :=
  { t with calls := Function.update t.calls i call }

-- A call that creates in a vacant cell is the only one to do so.
inductive Step : Traffic κ α → Move κ α → Traffic κ α → Prop
  | enter {t : Traffic κ α} (i : Nat) (key : κ) (away : t.calls i = none) :
    Step t (.enter i key)
      ⟨(t.registry.enter key).2, Function.update t.calls i (some ⟨key, (t.registry.enter key).1, .waiting⟩)⟩
  | find {t : Traffic κ α} (i : Nat) {key : κ} {cell : Nat} {value : α} (here : t.calls i = some ⟨key, cell, .waiting⟩)
      (filled : t.registry.value? cell = some value) : Step t (.find i) (t.setCall i none)
  | begin {t : Traffic κ α} (i : Nat) {key : κ} {cell : Nat} (here : t.calls i = some ⟨key, cell, .waiting⟩)
      (vacant : t.registry.value? cell = none) (alone : ∀ j other, t.calls j ≠ some ⟨other, cell, .creating⟩) :
    Step t (.begin i) (t.setCall i (some ⟨key, cell, .creating⟩))
  | make {t : Traffic κ α} (i : Nat) {key : κ} {cell : Nat} (value : α) (here : t.calls i = some ⟨key, cell, .creating⟩) :
    Step t (.make i value) ⟨t.registry.fill cell value, Function.update t.calls i none⟩
  | fail {t : Traffic κ α} (i : Nat) {key : κ} {cell : Nat} (here : t.calls i = some ⟨key, cell, .creating⟩) :
    Step t (.fail i) (t.setCall i (some ⟨key, cell, .failed⟩))
  | clean {t : Traffic κ α} (i : Nat) {key : κ} {cell : Nat} (here : t.calls i = some ⟨key, cell, .failed⟩) :
    Step t (.clean i) ⟨t.registry.abandon key cell, Function.update t.calls i none⟩
  | cancel {t : Traffic κ α} (i : Nat) : Step t (.cancel i) (t.setCall i none)
  | remove {t : Traffic κ α} (key : κ) : Step t (.remove key) { t with registry := (t.registry.remove key).2 }
  | removeIf {t : Traffic κ α} (key : κ) (stale : α → Bool) :
    Step t (.removeIf key stale) { t with registry := (t.registry.removeIf key stale).2 }

inductive Run : Traffic κ α → List (Move κ α) → Traffic κ α → Prop
  | stay (t : Traffic κ α) : Run t [] t
  | step {t next last : Traffic κ α} {m : Move κ α} {rest : List (Move κ α)} (first : Step t m next)
      (later : Run next rest last) : Run t (m :: rest) last

def addressed (t : Traffic κ α) (i : Nat) : Option κ :=
  (t.calls i).bind fun call => if t.registry.cell? call.key = some call.cell then some call.key else none

def after (t : Traffic κ α) : Move κ α → Contents κ α
  | .make i value =>
    match t.addressed i with
    | some key => Function.update t.contents key (some value)
    | none => t.contents
  | .remove key => Function.update t.contents key none
  | .removeIf key stale => if (t.contents key).any stale then Function.update t.contents key none else t.contents
  | _ => t.contents

end Traffic

namespace Race

def callOf {ω : Type} (key : κ) : Phase ω α → Option (Call κ)
  | .waiting cell => some ⟨key, cell, .waiting⟩
  | .creating cell _ => some ⟨key, cell, .creating⟩
  | _ => none

def traffic {ω : Type} (a : Access ω κ α) (callers : List (Caller ω κ α)) (s : Race ω α) : Traffic κ α where
  registry := a.get s.world
  calls := fun i => callers[i]?.bind fun c => s.phases[i]?.bind (callOf c.key)

end Race
end RemoteExec.Registry

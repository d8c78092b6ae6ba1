import RemoteExec.Registry.Race

namespace RemoteExec.Registry

structure Maker (α : Type) where
  pauses : Nat
  outcome : Except Failure α

structure Counted (κ α : Type) where
  registry : Registry κ α
  runs : Nat

namespace Maker

variable {κ α : Type} [DecidableEq κ]

def pausing (outcome : Except Failure α) : Nat → Creation (Counted κ α) α
  | 0 => .last fun w => (outcome, w)
  | n + 1 => .pause fun w => (.ok (pausing outcome n), w)

def creation (m : Maker α) : Creation (Counted κ α) α :=
  match m.pauses with
  | 0 => .last fun w => (m.outcome, { w with runs := w.runs + 1 })
  | n + 1 => .pause fun w => (.ok (pausing m.outcome n), { w with runs := w.runs + 1 })

def caller (key : κ) (m : Maker α) : Caller (Counted κ α) κ α := ⟨key, id, m.creation, fun _ w => w⟩

def access : Access (Counted κ α) κ α := ⟨Counted.registry, fun w r => { w with registry := r }⟩

def race (r : Registry κ α) (key : κ) (makers : List (Maker α)) : List (Except Failure α) × Counted κ α :=
  let callers := makers.map (caller key)
  let bound := makers.foldl (fun n m => n + m.pauses + 2) 2
  let s := Race.rounds access callers bound (Race.start ⟨r, 0⟩ callers)
  (s.outcomes, s.world)

end Maker
end RemoteExec.Registry

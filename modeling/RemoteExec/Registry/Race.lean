import RemoteExec.Failure
import RemoteExec.Registry.Basic
/-!
Callers that want the value of a registry at the same time. Only one at a time may fill a cell; the
others wait in line. When a creation fails the next in line runs its own; when one succeeds all who
wait get its value. Callers run one after the other, each until it waits or is done.
-/
namespace RemoteExec.Registry

-- A creation in steps; after a `pause` others may run. `ω` is the world that it acts on.
inductive Creation (ω α : Type) where
  | last (run : ω → Except Failure α × ω)
  | pause (run : ω → Except Failure (Creation ω α) × ω)

structure Caller (ω κ α : Type) where
  key : κ
  before : ω → ω
  creation : Creation ω α
  after : Except Failure α → ω → ω

inductive Phase (ω α : Type) where
  | fresh
  | waiting (cell : Nat)
  | creating (cell : Nat) (rest : Creation ω α)
  | done (outcome : Except Failure α)

structure Line where
  cell : Nat
  owner : Option Nat
  queue : List Nat

structure Access (ω κ α : Type) where
  get : ω → Registry κ α
  set : ω → Registry κ α → ω

structure Race (ω α : Type) where
  world : ω
  lines : List Line
  phases : List (Phase ω α)

namespace Race

variable {ω κ α : Type} [DecidableEq κ]

def line (s : Race ω α) (cell : Nat) : Line := (s.lines.find? fun l => l.cell = cell).getD ⟨cell, none, []⟩

def setLine (s : Race ω α) (l : Line) : Race ω α :=
  { s with lines := l :: s.lines.filter fun m => m.cell ≠ l.cell }

def setPhase (s : Race ω α) (i : Nat) (p : Phase ω α) : Race ω α := { s with phases := s.phases.set i p }

def finish (c : Caller ω κ α) (i : Nat) (outcome : Except Failure α) (s : Race ω α) : Race ω α :=
  { s with world := c.after outcome s.world }.setPhase i (.done outcome)

def settle (a : Access ω κ α) (c : Caller ω κ α) (i cell : Nat) (outcome : Except Failure α) (s : Race ω α) :
    Race ω α :=
  let l := s.line cell
  match outcome with
  | .ok v =>
    finish c i (.ok v) { (s.setLine ⟨cell, none, l.queue⟩) with world := a.set s.world ((a.get s.world).fill cell v) }
  | .error e =>
    finish c i (.error e)
      { (s.setLine ⟨cell, l.queue.head?, l.queue.tail⟩) with
        world := a.set s.world ((a.get s.world).abandon c.key cell) }

def create (a : Access ω κ α) (c : Caller ω κ α) (i cell : Nat) (creation : Creation ω α) (s : Race ω α) : Race ω α :=
  match creation with
  | .last run =>
    let (outcome, world) := run s.world
    settle a c i cell outcome { s with world := world }
  | .pause run =>
    match run s.world with
    | (.ok rest, world) => { s with world := world }.setPhase i (.creating cell rest)
    | (.error e, world) => settle a c i cell (.error e) { s with world := world }

def arrive (a : Access ω κ α) (c : Caller ω κ α) (i : Nat) (s : Race ω α) : Race ω α :=
  let world := c.before s.world
  let (cell, registry) := (a.get world).enter c.key
  let s := { s with world := a.set world registry }
  match registry.value? cell with
  | some v => finish c i (.ok v) s
  | none =>
    let l := s.line cell
    if l.owner.isNone then create a c i cell c.creation (s.setLine ⟨cell, some i, l.queue⟩)
    else (s.setLine ⟨cell, l.owner, l.queue ++ [i]⟩).setPhase i (.waiting cell)

def poll (a : Access ω κ α) (c : Caller ω κ α) (i : Nat) (s : Race ω α) : Race ω α :=
  match s.phases[i]? with
  | some .fresh => arrive a c i s
  | some (.waiting cell) =>
    match (a.get s.world).value? cell with
    | some v => finish c i (.ok v) s
    | none => if (s.line cell).owner = some i then create a c i cell c.creation s else s
  | some (.creating cell rest) => create a c i cell rest s
  | _ => s

def turn (a : Access ω κ α) (callers : List (Caller ω κ α)) (s : Race ω α) (i : Nat) : Race ω α :=
  match callers[i]? with
  | some c => poll a c i s
  | none => s

-- What may happen while the callers are under way: one of them takes its turn, or somebody removes a key.
inductive Event (κ α : Type) where
  | turn (i : Nat)
  | remove (key : κ)
  | removeIf (key : κ) (stale : α → Bool)

def occur (a : Access ω κ α) (callers : List (Caller ω κ α)) (s : Race ω α) : Event κ α → Race ω α
  | .turn i => turn a callers s i
  | .remove key => { s with world := a.set s.world ((a.get s.world).remove key).2 }
  | .removeIf key stale => { s with world := a.set s.world ((a.get s.world).removeIf key stale).2 }

def start (world : ω) (callers : List (Caller ω κ α)) : Race ω α := ⟨world, [], callers.map fun _ => .fresh⟩

def round (a : Access ω κ α) (callers : List (Caller ω κ α)) (s : Race ω α) : Race ω α :=
  callers.zipIdx.foldl (fun s c => poll a c.1 c.2 s) s

def isDone : Phase ω α → Bool
  | .done _ => true
  | _ => false

def rounds (a : Access ω κ α) (callers : List (Caller ω κ α)) : Nat → Race ω α → Race ω α
  | 0, s => s
  | n + 1, s => if s.phases.all isDone then s else rounds a callers n (round a callers s)

def outcomes (s : Race ω α) : List (Except Failure α) :=
  s.phases.filterMap fun p =>
    match p with
    | .done outcome => some outcome
    | _ => none

end Race
end RemoteExec.Registry

import RemoteExec.Registry.Race
import RemoteExec.Session.Exec
import RemoteExec.Session.Record
import RemoteExec.Session.Transfer

namespace RemoteExec

structure Member where
  held : Held
  operator : Prompter
deriving Inhabited

structure World (σ : Type) where
  lib : σ
  files : FileSystem
  log : List Event
  cache : Cache
  members : List Member

namespace World

variable {σ α : Type}

def scene (w : World σ) (i : Nat) : Scene σ :=
  let m := (w.members[i]?).getD ⟨Held.nothing, ⟨[], []⟩⟩
  ⟨⟨w.lib, w.files, m.operator, w.log⟩, w.cache, m.held⟩

def withScene (w : World σ) (i : Nat) (s : Scene σ) : World σ where
  lib := s.outside.lib
  files := s.outside.files
  log := s.outside.log
  cache := s.cache
  members := w.members.set i ⟨s.held, s.outside.operator⟩

def act (i : Nat) (a : Act σ α) (w : World σ) : Except Failure α × World σ :=
  let (outcome, s) := a (w.scene i)
  (outcome, w.withScene i s)

def act_ (i : Nat) (a : Act σ Unit) (w : World σ) : World σ := (act i a w).2

def sessions : Registry.Access (World σ) Seat SessionId where
  get := fun w => w.cache.sessions
  set := fun w r => { w with cache := { w.cache with sessions := r } }

-- Opening a session, with a pause after the first contact.
def opening (lib : Library σ) (c : Connection) (i : Nat) : Registry.Creation (World σ) SessionId :=
  .pause fun w =>
    match act i (Act.ofOp (c.begin lib)) w with
    | (.ok r, w) => (.ok (.last (act i (Act.ofOp (c.complete lib r)))), w)
    | (.error e, w) => (.error e, w)

def connecting (lib : Library σ) (c : Connection) (i : Nat) : Registry.Caller (World σ) Seat SessionId where
  key := c.seat
  before := act_ i (c.approach lib)
  creation := opening lib c i
  after := fun outcome => act_ i (Connection.conclude outcome)

def join (lib : Library σ) (connections : List (Connection × Nat)) (w : World σ) :
    List (Except Failure SessionId) × World σ :=
  let callers := connections.map fun c => connecting lib c.1 c.2
  let s := Registry.Race.rounds sessions callers (3 * callers.length + 2) (Registry.Race.start w callers)
  (s.outcomes, s.world)

end World

variable {σ : Type}

inductive Operation where
  | connect
  | ensureConnected
  | connectSftp
  | exec (command : String) (input : Option Bytes) (sudoable : Bool)
  | putFile (source target : String) (protocol : TransferProtocol)
  | fetchFile (source target : String) (protocol : TransferProtocol)
  | close
  | reset

def Operation.act (lib : Library σ) (c : Connection) : Operation → Act σ Unit
  | .connect => do let _ ← c.connect lib
  | .ensureConnected => do let _ ← c.ensureConnected lib
  | .connectSftp => do let _ ← c.connectSftp lib
  | .exec command input sudoable => do let _ ← c.exec lib command input sudoable
  | .putFile source target protocol => c.putFile lib source target protocol
  | .fetchFile source target protocol => c.fetchFile lib source target protocol
  | .close => c.close lib
  | .reset => do let _ ← c.reset lib

-- The settings of a connection may differ from one of its operations to the next.
inductive Happening (σ : Type) where
  | act (i : Nat) (c : Connection) (operation : Operation)
  | server (change : σ → σ)

namespace World

def step (lib : Library σ) (w : World (Recorded σ)) : Happening σ → World (Recorded σ)
  | .act i c operation => act_ i (operation.act lib.recorded c) w
  | .server change => { w with lib := { w.lib with state := change w.lib.state } }

def run (lib : Library σ) (happenings : List (Happening σ)) (w : World (Recorded σ)) : World (Recorded σ) :=
  happenings.foldl (step lib) w

structure Fresh (w : World (Recorded σ)) : Prop where
  calls : w.lib.calls = []
  cache : w.cache = Cache.empty
  members : ∀ m ∈ w.members, m.held = Held.nothing

def Reached (lib : Library σ) (w : World (Recorded σ)) : Prop :=
  ∃ start happenings, Fresh start ∧ w = run lib happenings start

end World
end RemoteExec

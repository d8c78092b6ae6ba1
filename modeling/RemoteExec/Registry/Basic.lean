namespace RemoteExec

structure Registry (κ α : Type) where
  entries : List (κ × Nat)
  values : List (Nat × α)
  next : Nat
deriving Inhabited

namespace Registry

variable {κ α : Type} [DecidableEq κ]

def empty : Registry κ α := ⟨[], [], 0⟩

def cell? (r : Registry κ α) (key : κ) : Option Nat := (r.entries.find? fun e => e.1 = key).map (·.2)

def value? (r : Registry κ α) (cell : Nat) : Option α := (r.values.find? fun v => v.1 = cell).map (·.2)

def get? (r : Registry κ α) (key : κ) : Option α := (r.cell? key).bind r.value?

def contains (r : Registry κ α) (key : κ) : Bool := (r.cell? key).any fun cell => (r.value? cell).isSome

def size (r : Registry κ α) : Nat := (r.entries.filter fun e => (r.value? e.2).isSome).length

def sizeOf (r : Registry κ α) (kind : κ → Bool) : Nat :=
  (r.entries.filter fun e => kind e.1 && (r.value? e.2).isSome).length

def enter (r : Registry κ α) (key : κ) : Nat × Registry κ α :=
  match r.cell? key with
  | some c => (c, r)
  | none => (r.next, { r with entries := (key, r.next) :: r.entries, next := r.next + 1 })

def fill (r : Registry κ α) (cell : Nat) (value : α) : Registry κ α :=
  { r with values := (cell, value) :: r.values }

def erase (r : Registry κ α) (key : κ) : Registry κ α :=
  { r with entries := r.entries.filter fun e => !decide (e.1 = key) }

-- A creation failed: the entry goes if it still leads to this cell and the cell is vacant.
def abandon (r : Registry κ α) (key : κ) (cell : Nat) : Registry κ α :=
  if r.cell? key = some cell ∧ (r.value? cell).isNone then r.erase key else r

def remove (r : Registry κ α) (key : κ) : Option α × Registry κ α := (r.get? key, r.erase key)

def removeIf (r : Registry κ α) (key : κ) (stale : α → Bool) : Option α × Registry κ α :=
  match r.get? key with
  | some v => if stale v then (some v, r.erase key) else (none, r)
  | none => (none, r)

end Registry
end RemoteExec

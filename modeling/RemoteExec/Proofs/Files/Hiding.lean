import RemoteExec.Proofs.Files.Appending
import RemoteExec.Proofs.Session.Relating

namespace RemoteExec

inductive Node.Alike (hidden : Prop) : Node → Node → Prop where
  | same (node : Node) : Alike hidden node node
  | content (content other : Bytes) (mode : Nat) (hides : hidden) :
    Alike hidden (.file content mode) (.file other mode)

namespace FileSystem

structure Alike (hidden : Place → Prop) (fs gs : FileSystem) : Prop where
  workDir : fs.workDir = gs.workDir
  nodes : ∀ place, Option.Rel (Node.Alike (hidden place)) (fs.nodeAt? place) (gs.nodeAt? place)

namespace Alike

variable {hidden : Place → Prop} {fs gs : FileSystem}

theorem refl (hidden : Place → Prop) (fs : FileSystem) : fs.Alike hidden fs :=
  ⟨rfl, fun place => rel_refl .same (fs.nodeAt? place)⟩

theorem enter (alike : fs.Alike hidden gs) (place : Place) : fs.enter place = gs.enter place := by
  have nodes := alike.nodes place
  simp only [FileSystem.enter]
  generalize fs.nodeAt? place = x at nodes ⊢
  generalize gs.nodeAt? place = y at nodes ⊢
  cases nodes with
  | none => rfl
  | some related =>
      cases related with
      | same node => rfl
      | content content other mode hides => rfl

theorem follow (alike : fs.Alike hidden gs) (place : Place) (steps : List String) :
    fs.follow place steps = gs.follow place steps := by
  induction steps generalizing place with
  | nil => rfl
  | cons step rest ih => simp only [FileSystem.follow, alike.enter, ih]

theorem locate (alike : fs.Alike hidden gs) (path : String) : fs.locate path = gs.locate path := by
  simp only [FileSystem.locate, alike.follow, alike.workDir]

theorem node (alike : fs.Alike hidden gs) (path : String) :
    Agree (fun n m => ∃ place, Node.Alike (hidden place) n m) (fs.node path) (gs.node path) := by
  simp only [FileSystem.node, alike.locate]
  cases gs.locate path with
  | error e => exact .error e
  | ok place =>
      have nodes := alike.nodes place
      simp only [bind, Except.bind]
      generalize fs.nodeAt? place = x at nodes ⊢
      generalize gs.nodeAt? place = y at nodes ⊢
      cases nodes with
      | none => exact .error _
      | some related => exact .ok ⟨place, related⟩

theorem present (alike : fs.Alike hidden gs) (path : String) : fs.exists? path = gs.exists? path := by
  have nodes := alike.node path
  simp only [exists?]
  generalize fs.node path = x at nodes ⊢
  generalize gs.node path = y at nodes ⊢
  cases nodes with
  | ok _ => rfl
  | error e => rfl

theorem read (alike : fs.Alike hidden gs) (path : String) :
    Agree (fun _ _ => True) (fs.read path) (gs.read path) := by
  have nodes := alike.node path
  simp only [FileSystem.read]
  generalize fs.node path = x at nodes ⊢
  generalize gs.node path = y at nodes ⊢
  cases nodes with
  | error e => exact .error e
  | @ok node _ related =>
      obtain ⟨place, related⟩ := related
      cases related with
      | content before after mode hides => exact .ok trivial
      | same =>
          cases node with
          | file content mode => exact .ok trivial
          | dir mode => exact .error _

theorem put (alike : fs.Alike hidden gs) {place : Place} {n m : Node} (nodes : Node.Alike (hidden place) n m) :
    (fs.put place n).Alike hidden (gs.put place m) := by
  refine ⟨alike.workDir, fun other => ?_⟩
  rw [nodeAt_put, nodeAt_put]
  by_cases same : other = place
  · rw [if_pos same, if_pos same, same]
    exact .some nodes
  · rw [if_neg same, if_neg same]
    exact alike.nodes other

theorem vacant (alike : fs.Alike hidden gs) (place : Place) : (fs.nodeAt? place).isNone = (gs.nodeAt? place).isNone := by
  have nodes := alike.nodes place
  generalize fs.nodeAt? place = x at nodes ⊢
  generalize gs.nodeAt? place = y at nodes ⊢
  cases nodes with
  | none => rfl
  | some _ => rfl

theorem asksNewDir (alike : fs.Alike hidden gs) (path : String) : fs.asksNewDir path = gs.asksNewDir path := by
  simp only [FileSystem.asksNewDir, alike.locate, alike.vacant]

theorem write (alike : fs.Alike hidden gs) (path : String) {content other : Bytes}
    (fits : ∀ place mode, Node.Alike (hidden place) (.file content mode) (.file other mode)) :
    Agree (Alike hidden) (fs.write path content) (gs.write path other) := by
  simp only [FileSystem.write, update, alike.asksNewDir, alike.locate]
  by_cases asks : gs.asksNewDir path = true
  · rw [if_pos asks, if_pos asks]
    exact .error _
  · rw [if_neg asks, if_neg asks]
    cases gs.locate path with
    | error e => exact .error e
    | ok place =>
        have nodes := alike.nodes place
        simp only [bind, Except.bind]
        generalize fs.nodeAt? place = x at nodes ⊢
        generalize gs.nodeAt? place = y at nodes ⊢
        cases nodes with
        | none => exact .ok (alike.put (fits place fileMode))
        | @some node _ related =>
            cases related with
            | content before after mode hides => exact .ok (alike.put (fits place mode))
            | same =>
                cases node with
                | file before mode => exact .ok (alike.put (fits place mode))
                | dir mode => exact .error _

end Alike
end FileSystem
end RemoteExec

import RemoteExec.Proofs.Files.Appending
import RemoteExec.Proofs.Text.Lines

namespace RemoteExec.FileSystem

theorem enter_ok {fs : FileSystem} {place here : Place} (entered : fs.enter place = .ok here) :
    here = place ∧ ∃ mode, fs.nodeAt? place = some (.dir mode) := by
  simp only [enter] at entered
  cases there : fs.nodeAt? place with
  | none =>
      rw [there] at entered
      cases entered
  | some node =>
      cases node with
      | file content mode =>
          rw [there] at entered
          cases entered
      | dir mode =>
          rw [there] at entered
          cases entered
          exact ⟨rfl, mode, rfl⟩

theorem pieces_slash {path : String} {front : List Char} (ends : path.toList = front ++ ['/']) :
    Path.pieces path = (Text.splitOn '/' front).map String.ofList ++ [""] := by
  rw [Path.pieces, ends, Text.splitOn_foldl, Text.splitOn_foldl, List.foldl_append]
  simp [Text.fieldStep]

-- A slash at the end takes a path into a directory.
theorem follow_slash {fs : FileSystem} {steps : List String} {place goal : Place}
    (followed : fs.follow place (steps ++ [""]) = .ok goal) : ∃ mode, fs.nodeAt? goal = some (.dir mode) := by
  induction steps generalizing place with
  | nil =>
      obtain ⟨here, entered, followed⟩ := bind_ok_iff.mp followed
      obtain ⟨same, dir⟩ := enter_ok entered
      cases followed
      rw [same]
      exact dir
  | cons step rest ih =>
      obtain ⟨here, _, followed⟩ := bind_ok_iff.mp followed
      split at followed
      · exact ih followed
      · split at followed
        · exact ih followed
        · exact ih followed

theorem locate_slash {fs : FileSystem} {path : String} {front : List Char} {place : Place}
    (ends : path.toList = front ++ ['/']) (located : fs.locate path = .ok place) :
    ∃ mode, fs.nodeAt? place = some (.dir mode) := by
  simp only [locate] at located
  split at located
  · cases located
  · split at located
    · cases located
    · rw [pieces_slash ends] at located
      exact follow_slash located

theorem asksNewDir_slash {fs : FileSystem} {path : String} (asks : fs.asksNewDir path = true) :
    ∃ front, path.toList = front ++ ['/'] := by
  cases letters : path.toList.reverse with
  | nil =>
      have bare : String.ofList (path.toList.reverse.dropWhile (· == '/')).reverse = path := by
        simp [← String.toList_inj, List.reverse_eq_nil_iff.mp letters]
      simp [asksNewDir, bare] at asks
  | cons last rest =>
      by_cases slash : last = '/'
      · refine ⟨rest.reverse, ?_⟩
        rw [← List.reverse_reverse path.toList, letters, slash, List.reverse_cons]
      · have bare : String.ofList (path.toList.reverse.dropWhile (· == '/')).reverse = path := by
          rw [letters, List.dropWhile_cons_of_neg (by simpa using slash), ← letters, List.reverse_reverse,
            String.ofList_toList]
        simp [asksNewDir, bare] at asks

theorem stat_file {fs : FileSystem} {path : String} {content : Bytes} {mode : Nat}
    (given : fs.node path = .ok (.file content mode)) : fs.stat path = .ok (mode, content.length) := by
  rw [stat, given]
  rfl

theorem read_file {fs : FileSystem} {path : String} {content : Bytes} {mode : Nat}
    (given : fs.node path = .ok (.file content mode)) : fs.read path = .ok content := by
  rw [read, given]
  rfl

theorem write_places {fs after : FileSystem} {path : String} {content : Bytes}
    (written : fs.write path content = .ok after) :
    ∃ place mode, fs.locate path = .ok place ∧ (∀ bits, fs.nodeAt? place ≠ some (.dir bits)) ∧
      after = fs.put place (.file content mode) := by
  obtain ⟨place, _, mode, located, plain, _, stored⟩ := update_places written
  exact ⟨place, mode, located, plain, stored⟩

theorem write_ready {fs : FileSystem} {path : String} {place : Place} (located : fs.locate path = .ok place)
    (plain : ∀ bits, fs.nodeAt? place ≠ some (.dir bits)) (content : Bytes) :
    ∃ after, fs.write path content = .ok after := by
  have named : ¬ fs.asksNewDir path = true := by
    intro asks
    obtain ⟨front, ends⟩ := asksNewDir_slash asks
    obtain ⟨bits, dir⟩ := locate_slash ends located
    exact plain bits dir
  simp only [write, update, bind, Except.bind, if_neg named, located]
  cases there : fs.nodeAt? place with
  | none => exact ⟨_, rfl⟩
  | some node =>
      cases node with
      | file old mode => exact ⟨_, rfl⟩
      | dir bits => exact absurd there (plain bits)

theorem read_write {fs after : FileSystem} {path : String} {content : Bytes}
    (written : fs.write path content = .ok after) : after.read path = .ok content := by
  obtain ⟨_, now, _⟩ := read_update written
  exact now

theorem write_again {fs after : FileSystem} {path : String} {content : Bytes}
    (written : fs.write path content = .ok after) (more : Bytes) : ∃ later, after.write path more = .ok later := by
  obtain ⟨place, mode, located, plain, stored⟩ := write_places written
  rw [stored]
  refine write_ready (locate_put plain _ located) ?_ more
  intro bits dir
  rw [nodeAt_put, if_pos rfl] at dir
  cases dir

end RemoteExec.FileSystem

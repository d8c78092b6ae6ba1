import RemoteExec.Proofs.Files.Appending
import RemoteExec.Proofs.HostKeys.Store
import RemoteExec.Proofs.Text.Utf8

namespace RemoteExec.KnownHosts

open Text

theorem readLine_nil : readLine [] = [] := rfl

theorem readLine_chomp (l : List Char) : readLine (chomp l) = readLine l := by
  refine readLine_words ?_
  simp only [chomp]
  split
  next rest reversed =>
    have ended : l = rest.reverse ++ ['\r'] := by
      rw [← List.reverse_reverse l, reversed, List.reverse_cons]
    rw [ended, words_blank_end _ (by decide)]
  next => rfl

theorem readLine_blanks {blanks : List Char} (blank : ∀ c ∈ blanks, isBlank c = true) (rest : List Char) :
    readLine (blanks ++ rest) = readLine rest :=
  readLine_words (words_blanks blank rest)

theorem readLine_named {l : List Char} : ∀ k ∈ readLine l, Named k := by
  intro k member
  simp only [readLine] at member
  split at member
  · split at member
    · cases member
    · obtain ⟨name, _, rfl⟩ := List.mem_map.mp member
      simp [Named, String.lowercase, lower_lower]
  · cases member

theorem readKeys_named (content : String) : ∀ k ∈ readKeys content, Named k := by
  intro k member
  obtain ⟨l, _, inside⟩ := List.mem_flatMap.mp member
  exact readLine_named k inside

theorem readKeys_split (content : String) :
    readKeys content = (closedLines content.toList).flatMap readLine ++ readLine (openLine content.toList) := by
  rw [readKeys, lines_eq]
  by_cases ended : openLine content.toList = []
  · simp [ended, readLine_nil]
  · simp [ended]

def text (added : List KnownKey) : String := String.join ((added.map line).map (· ++ "\n"))

theorem line_unbroken {k : KnownKey} (writable : Writable k) : '\n' ∉ (line k).toList := by
  have blank : isBlank '\n' = true := by decide
  have whole : ∀ s : List Char, (∀ c ∈ s, isBlank c = false) → '\n' ∉ s := by
    intro s unbroken member
    rw [unbroken '\n' member] at blank
    cases blank
  have pattern := whole k.pattern.toList fun c member => (writable.pattern_whole c member).1
  have keyType := whole k.keyType.toList writable.keyType_whole
  have key := whole k.key.toList writable.key_whole
  simp [line, pattern, keyType, key]

theorem text_toList (added : List KnownKey) :
    (text added).toList = ((added.map fun k => (line k).toList).map (· ++ ['\n'])).flatten := by
  simp [text, String.toList_join, List.flatMap_def, Function.comp_def]

theorem text_cons (first : KnownKey) (rest : List KnownKey) : text (first :: rest) = line first ++ "\n" ++ text rest := by
  rw [← String.toList_inj]
  simp [text_toList]

theorem text_empty {added : List KnownKey} (nothing : text added = "") : added = [] := by
  cases added with
  | nil => rfl
  | cons first rest =>
      have letters := congrArg String.toList nothing
      simp [text_cons] at letters

variable {content : String} {added : List KnownKey}

theorem readKeys_ended (writable : ∀ k ∈ added, Writable k) (ended : openLine content.toList = []) :
    readKeys (content ++ text added) = readKeys content ++ added := by
  have unbroken : ∀ l ∈ added.map fun k => (line k).toList, '\n' ∉ l := by
    intro l member
    obtain ⟨k, inside, rfl⟩ := List.mem_map.mp member
    exact line_unbroken (writable k inside)
  have own : ∀ keys : List KnownKey, (∀ k ∈ keys, Writable k) →
      ((keys.map fun k => (line k).toList).map chomp).flatMap readLine = keys := by
    intro keys each
    induction keys with
    | nil => rfl
    | cons k rest ih =>
        have first := (readLine_chomp (line k).toList).trans (readLine_line (each k List.mem_cons_self))
        have later := ih fun other member => each other (List.mem_cons_of_mem _ member)
        simp only [List.map_cons, List.flatMap_cons, first, later]
        rfl
  rw [readKeys_split content, ended, readLine_nil, List.append_nil, readKeys, String.toList_append, text_toList,
    lines_added unbroken ended, List.flatMap_append, own added writable]

theorem readKeys_apart (writable : ∀ k ∈ added, Writable k) :
    readKeys (content ++ "\n" ++ text added) = readKeys content ++ added := by
  have ended : (content ++ "\n").toList = content.toList ++ ['\n'] := by simp
  rw [readKeys_ended writable (by rw [ended, openLine_ended]), readKeys_split (content ++ "\n"), ended, openLine_ended,
    closedLines_ended, readLine_nil, readKeys_split content]
  simp [readLine_chomp]

theorem readKeys_joined {first : KnownKey} {rest : List KnownKey} (writable : ∀ k ∈ first :: rest, Writable k) :
    readKeys (content ++ text (first :: rest)) =
      (closedLines content.toList).flatMap readLine ++ readLine (openLine content.toList ++ (line first).toList) ++ rest := by
  have ended : (content ++ (line first ++ "\n")).toList = content.toList ++ ((line first).toList ++ ['\n']) := by simp
  have closed := closedLines_first (line_unbroken (writable first List.mem_cons_self)) content.toList
  have empty : openLine (content ++ (line first ++ "\n")).toList = [] := by
    rw [ended, ← List.append_assoc, openLine_ended]
  rw [text_cons, ← String.append_assoc, readKeys_ended (fun k member => writable k (List.mem_cons_of_mem _ member)) empty,
    readKeys_split, empty, readLine_nil, ended, closed]
  simp [readLine_chomp]

def Ended (content : String) : Prop := ∀ c ∈ openLine content.toList, isBlank c = true

instance (content : String) : Decidable (Ended content) :=
  decidable_of_iff ((openLine content.toList).all isBlank = true) List.all_eq_true

theorem readKeys_appended (ended : Ended content) (writable : ∀ k ∈ added, Writable k) :
    readKeys (content ++ text added) = readKeys content ++ added := by
  cases added with
  | nil => simp [text]
  | cons first rest =>
      have own := readLine_line (writable first List.mem_cons_self)
      have silent : readLine (openLine content.toList) = [] := by
        rw [← List.append_nil (openLine content.toList), readLine_blanks ended, readLine_nil]
      rw [readKeys_joined writable, readLine_blanks ended, own, readKeys_split content, silent]
      simp

section Disk

variable {fs disk : FileSystem} {path : String} {store saved : KnownHosts}

theorem readText_iff (fs : FileSystem) (path content : String) :
    fs.readText path = .ok content ↔ ∃ bytes, fs.read path = .ok bytes ∧ bytes.toString? = some content := by
  simp only [FileSystem.readText, FileSystem.bind_ok_iff]
  refine exists_congr fun bytes => and_congr_right fun _ => ?_
  cases decoded : bytes.toString? with
  | none => simp
  | some s => simp

theorem load_text (found : fs.readText path = .ok content) :
    (load fs path).1 = .ok ⟨path, readKeys content, []⟩ := by
  obtain ⟨bytes, stored, _⟩ := (readText_iff fs path content).mp found
  simp [load, FileSystem.exists_of_read stored, found]

theorem load_present (present : fs.exists? path = true) (loaded : (load fs path).1 = .ok store) :
    ∃ content, fs.readText path = .ok content ∧ store = ⟨path, readKeys content, []⟩ := by
  simp only [load, present, if_true] at loaded
  cases found : fs.readText path with
  | error e =>
      rw [found] at loaded
      cases loaded
  | ok content =>
      rw [found] at loaded
      cases loaded
      exact ⟨content, rfl, rfl⟩

theorem load_clean (loaded : (load fs path).1 = .ok store) : store.path = path ∧ store.pending = [] := by
  simp only [load] at loaded
  split at loaded
  · split at loaded
    · cases loaded
    · cases loaded
      exact ⟨rfl, rfl⟩
  · cases loaded
    exact ⟨rfl, rfl⟩

def pendingText (store : KnownHosts) : Bytes := Bytes.ofString (String.join (store.pending.map (· ++ "\n")))

theorem pendingText_lines {added : List KnownKey} (pending : store.pending = added.map line) :
    store.pendingText = Bytes.ofString (text added) := by
  rw [pendingText, pending, text]

theorem pendingText_length (waiting : store.pending ≠ []) : 0 < store.pendingText.length := by
  cases pending : store.pending with
  | nil => exact absurd pending waiting
  | cons line rest =>
      rw [pendingText, pending, List.map_cons, String.join_cons, Bytes.ofString_append, Bytes.ofString_append,
        List.length_append, List.length_append]
      have feed : (Bytes.ofString "\n").length = 1 := by decide +kernel
      omega

-- Saving gets as far as the open file, which takes no more than a part of the pending lines and then refuses.
def Stops (store : KnownHosts) (fs : FileSystem) (taken : Bytes) (refusal : IoError) : Prop :=
  store.pending ≠ [] ∧ ∃ ready place opened limit,
    fs.createParents store.path = .ok ready ∧ ready.openAppend store.path = .ok (place, opened) ∧
      opened.limits.lookup place = some limit ∧
      limit.size < (opened.contentAt place).length + store.pendingText.length ∧
      taken = store.pendingText.take (limit.size - (opened.contentAt place).length) ∧ refusal = limit.refusal

theorem Stops.part {taken : Bytes} {refusal : IoError} (stops : store.Stops fs taken refusal) :
    taken <+: store.pendingText ∧ taken ≠ store.pendingText := by
  obtain ⟨waiting, _, _, _, limit, _, _, _, short, rfl, _⟩ := stops
  have some_text := pendingText_length waiting
  refine ⟨List.take_prefix _ _, ?_⟩
  intro whole
  have all := congrArg List.length whole
  rw [List.length_take] at all
  omega

inductive SaveEnds (store : KnownHosts) (fs : FileSystem) :
    Except (Failure × KnownHosts × FileSystem) (KnownHosts × FileSystem) → Prop
  | idle (nothing : store.pending = []) : SaveEnds store fs (.ok (store, fs))
  | barred {e : IoError} {disk : FileSystem} (waiting : store.pending ≠ [])
      (clear : ¬ ∃ taken refusal, store.Stops fs taken refusal) (dirs : FileSystem.OnlyDirs fs disk) :
      SaveEnds store fs (.error (.io e, store, disk))
  | stopped {taken : Bytes} {refusal : IoError} {disk : FileSystem} (stops : store.Stops fs taken refusal)
      (grown : FileSystem.Grown fs disk store.path taken) :
      SaveEnds store fs (.error (.io refusal, { store with pending := [] }, disk))
  | written {disk : FileSystem} (waiting : store.pending ≠ []) (clear : ¬ ∃ taken refusal, store.Stops fs taken refusal)
      (grown : FileSystem.Grown fs disk store.path store.pendingText) :
      SaveEnds store fs (.ok ({ store with pending := [] }, disk))

theorem save_ends (store : KnownHosts) (fs : FileSystem) : SaveEnds store fs (store.save fs).1 := by
  by_cases nothing : store.pending = []
  · have idle : store.save fs = (.ok (store, fs), []) := by simp [save, nothing]
    rw [idle]
    exact .idle nothing
  · have waiting : ¬ store.pending.isEmpty = true := by simpa using nothing
    simp only [save, if_neg waiting]
    cases made : fs.createParents store.path with
    | error failure =>
        refine .barred nothing ?_ (FileSystem.createParents_failed made)
        intro stops
        obtain ⟨_, _, _, _, _, _, _, ready, _⟩ := stops
        rw [made] at ready
        cases ready
    | ok ready =>
        dsimp only
        cases opens : ready.openAppend store.path with
        | error e =>
            refine .barred nothing ?_ (FileSystem.createParents_made made)
            intro stops
            obtain ⟨_, _, _, _, _, _, _, again, opened, _⟩ := stops
            rw [made] at again
            cases again
            rw [opens] at opened
            cases opened
        | ok opened =>
            obtain ⟨place, opened⟩ := opened
            obtain ⟨mode, file, grown⟩ := FileSystem.put_grown made opens
            have lines : opened.appendLines place store.pending = opened.appendAt place store.pendingText := by
              rw [pendingText]
              cases pending : store.pending with
              | nil => exact absurd pending nothing
              | cons line rest => exact FileSystem.appendLines_text file line rest
            dsimp only
            rw [lines]
            cases opened.allows_or_limited place ((opened.contentAt place).length + store.pendingText.length) with
            | inl allows =>
                rw [FileSystem.appendAt_whole file allows]
                refine .written nothing ?_ (grown _)
                intro stops
                obtain ⟨_, _, _, _, _, _, limit, again, opened_again, limited, short, _⟩ := stops
                cases made.symm.trans again
                cases opens.symm.trans opened_again
                exact absurd (allows limit limited) (Nat.not_le_of_lt short)
            | inr limited =>
                obtain ⟨limit, limited, short⟩ := limited
                rw [FileSystem.appendAt_short file limited short]
                exact .stopped ⟨nothing, ready, place, opened, limit, made, opens, limited, short, rfl, rfl⟩ (grown _)

theorem save_appends {added : List KnownKey} (pending : store.pending = added.map line) (some_added : added ≠ [])
    (written : (store.save fs).1 = .ok (saved, disk)) :
    saved.keys = store.keys ∧ FileSystem.Appended fs disk store.path (Bytes.ofString (text added)) := by
  have ends := save_ends store fs
  rw [written] at ends
  cases ends with
  | idle nothing =>
      rw [pending] at nothing
      exact absurd (List.map_eq_nil_iff.mp nothing) some_added
  | written waiting clear grown =>
      rw [pendingText_lines pending] at grown
      exact ⟨rfl, grown.appended⟩

theorem save_text (store : KnownHosts) (added : List KnownKey) (found : fs.readText store.path = .ok content)
    (pending : store.pending = added.map line) (written : (store.save fs).1 = .ok (saved, disk)) :
    saved.keys = store.keys ∧ disk.readText store.path = .ok (content ++ text added) := by
  by_cases nothing : added = []
  · have idle : store.save fs = (.ok (store, fs), []) := by simp [save, pending, nothing]
    rw [idle] at written
    cases written
    simpa [nothing, text] using found
  · obtain ⟨bytes, stored, decoded⟩ := (readText_iff fs store.path content).mp found
    obtain ⟨kept, place, _, now, same, _⟩ := save_appends pending nothing written
    rw [same bytes stored] at now
    exact ⟨kept, (readText_iff _ _ _).mpr ⟨_, now, Bytes.toString_append decoded _⟩⟩

end Disk

theorem reload_agrees_iff (fs : FileSystem) (path : String) {store : KnownHosts} (present : fs.exists? path = true)
    (loaded : (load fs path).1 = .ok store) (entries : List Entry) (wellFormed : ∀ e ∈ entries, e.WellFormed)
    {saved : KnownHosts} {disk : FileSystem} (written : ((store.addAll entries).save fs).1 = .ok (saved, disk)) :
    ∃ content appended reloaded,
      fs.readText path = .ok content ∧ disk.readText path = .ok (content ++ appended) ∧
      (load disk path).1 = .ok reloaded ∧
      (saved.Agrees reloaded ↔ ∀ k, k ∈ readKeys (content ++ "\n" ++ appended) ↔ k ∈ readKeys (content ++ appended)) ∧
      (appended = "" ∨ Ended content → saved.Agrees reloaded) ∧
      (∀ host port keyType key, (store.check host port keyType key).1 = .verified →
        (saved.check host port keyType key).1 = .verified) ∧
      ∀ e ∈ entries, (saved.check e.host e.port e.keyType e.key).1 = .verified := by
  obtain ⟨content, found, rfl⟩ := load_present present loaded
  obtain ⟨added, grown, origin, verified⟩ := addAll_plus ⟨path, readKeys content, []⟩ entries
  have writable : ∀ k ∈ added, Writable k := by
    intro k member
    obtain ⟨e, inside, rfl⟩ := origin k member
    exact (wellFormed e inside).writable
  rw [grown] at written
  obtain ⟨kept, after⟩ := save_text (plus ⟨path, readKeys content, []⟩ added) added found (by simp [plus]) written
  have memory : saved.keys = readKeys (content ++ "\n" ++ text added) := by
    rw [kept, readKeys_apart writable]
    rfl
  have agree : saved.Agrees ⟨path, readKeys (content ++ text added), []⟩ ↔
      ∀ k, k ∈ readKeys (content ++ "\n" ++ text added) ↔ k ∈ readKeys (content ++ text added) := by
    rw [agrees_iff (by rw [memory]; exact readKeys_named _) (readKeys_named _), memory]
  refine ⟨content, text added, ⟨path, readKeys (content ++ text added), []⟩, found, after, load_text after, agree, ?_, ?_, ?_⟩
  · intro harmless
    refine agree.mpr fun k => ?_
    rw [readKeys_apart writable]
    rcases harmless with nothing | ended
    · simp [text_empty nothing, text]
    · rw [readKeys_appended ended writable]
  · intro host port keyType key before
    rw [check_verified_iff] at before ⊢
    rw [memory, readKeys_apart writable]
    exact List.mem_append_left _ before
  · intro e member
    rw [check_verified_iff, memory, readKeys_apart writable]
    exact verified e member

theorem exists_ok {ε α : Type} {outcome : Except ε α} (fine : outcome.isOk = true) : ∃ x, outcome = .ok x := by
  cases outcome with
  | ok x => exact ⟨x, rfl⟩
  | error e => cases fine

def onDisk (content : String) : FileSystem := FileSystem.empty.install "known_hosts" (some (Bytes.ofString content))

def dbKey : Entry := ⟨"db", 22, "ssh-rsa", "BBBB"⟩

theorem dbKey_wellFormed : dbKey.WellFormed := by
  constructor
  all_goals simp [dbKey, isBlank]

theorem reload_agrees_ended :
    ∃ store saved disk reloaded,
      (load (onDisk "web01 ssh-ed25519 AAAA\n") "known_hosts").1 = .ok store ∧
      ((store.addAll [dbKey]).save (onDisk "web01 ssh-ed25519 AAAA\n")).1 = .ok (saved, disk) ∧
      (load disk "known_hosts").1 = .ok reloaded ∧ saved.Agrees reloaded := by
  have present : (onDisk "web01 ssh-ed25519 AAAA\n").exists? "known_hosts" = true := by decide +kernel
  have found : (onDisk "web01 ssh-ed25519 AAAA\n").readText "known_hosts" = .ok "web01 ssh-ed25519 AAAA\n" := by
    decide +kernel
  have saves : ((addAll ⟨"known_hosts", readKeys "web01 ssh-ed25519 AAAA\n", []⟩ [dbKey]).save
      (onDisk "web01 ssh-ed25519 AAAA\n")).1.isOk = true := by decide +kernel
  obtain ⟨⟨saved, disk⟩, written⟩ := exists_ok saves
  obtain ⟨content, appended, reloaded, same, _, loaded, _, agrees, _⟩ :=
    reload_agrees_iff _ "known_hosts" present (load_text found) [dbKey] (by simpa using dbKey_wellFormed) written
  rw [found] at same
  cases same
  exact ⟨_, saved, disk, reloaded, load_text found, written, loaded, agrees (Or.inr (by decide +kernel))⟩

theorem unfinished_line_joined :
    ∃ store saved disk reloaded,
      (onDisk "web01 ssh-ed25519 AAAA").exists? "known_hosts" = true ∧
      (load (onDisk "web01 ssh-ed25519 AAAA") "known_hosts").1 = .ok store ∧ dbKey.WellFormed ∧
      ((store.addAll [dbKey]).save (onDisk "web01 ssh-ed25519 AAAA")).1 = .ok (saved, disk) ∧
      (load disk "known_hosts").1 = .ok reloaded ∧
      (saved.check "web01" 22 "ssh-ed25519" "AAAA").1 = .verified ∧
      (reloaded.check "web01" 22 "ssh-ed25519" "AAAA").1 = .changed ∧
      (saved.check "db" 22 "ssh-rsa" "BBBB").1 = .verified ∧
      (reloaded.check "db" 22 "ssh-rsa" "BBBB").1 = .unknown := by
  have found : (onDisk "web01 ssh-ed25519 AAAA").readText "known_hosts" = .ok "web01 ssh-ed25519 AAAA" := by decide +kernel
  have saves : ((addAll ⟨"known_hosts", readKeys "web01 ssh-ed25519 AAAA", []⟩ [dbKey]).save
      (onDisk "web01 ssh-ed25519 AAAA")).1.isOk = true := by decide +kernel
  obtain ⟨⟨saved, disk⟩, written⟩ := exists_ok saves
  obtain ⟨kept, after⟩ := save_text _ [dbKey.known] found (by decide +kernel) written
  refine ⟨_, saved, disk, _, by decide +kernel, load_text found, dbKey_wellFormed, written, load_text after, ?_, ?_, ?_, ?_⟩
  · rw [check_verified_iff, kept]
    decide +kernel
  · decide +kernel
  · rw [check_verified_iff, kept]
    decide +kernel
  · decide +kernel

end RemoteExec.KnownHosts

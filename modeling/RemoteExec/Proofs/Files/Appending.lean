import RemoteExec.Files.FileSystem
import RemoteExec.Proofs.Text.Utf8

namespace RemoteExec.FileSystem

theorem nodeAt_put (fs : FileSystem) (place other : Place) (node : Node) :
    (fs.put place node).nodeAt? other = if other = place then some node else fs.nodeAt? other := by
  by_cases same : other = place
  · simp [nodeAt?, put, same]
  · have unlike : (place == other) = false := by simpa using Ne.symm same
    have kept : ∀ nodes : List (Place × Node),
        (nodes.filter fun n => n.1 != place).find? (fun n => n.1 == other) = nodes.find? fun n => n.1 == other := by
      intro nodes
      induction nodes with
      | nil => rfl
      | cons first rest ih =>
          by_cases here : first.1 = place
          · have away : (first.1 == other) = false := by simpa [here] using Ne.symm same
            simp [here, unlike, ih]
          · by_cases found : first.1 = other
            · simp [found, same]
            · simp [here, found, ih]
    simp [nodeAt?, put, unlike, kept, same]

structure Extends (before after : FileSystem) : Prop where
  workDir : after.workDir = before.workDir
  nodes : ∀ place node, before.nodeAt? place = some node → after.nodeAt? place = some node

theorem Extends.refl (fs : FileSystem) : Extends fs fs := ⟨rfl, fun _ _ there => there⟩

theorem Extends.trans {first second third : FileSystem} (left : Extends first second) (right : Extends second third) :
    Extends first third :=
  ⟨right.workDir.trans left.workDir, fun place node there => right.nodes place node (left.nodes place node there)⟩

theorem put_extends {fs : FileSystem} {place : Place} (vacant : fs.nodeAt? place = none) (node : Node) :
    Extends fs (fs.put place node) := by
  refine ⟨rfl, fun other found there => ?_⟩
  rw [nodeAt_put, if_neg]
  · exact there
  · rintro rfl
    rw [vacant] at there
    cases there

theorem bind_ok_iff {ε α β : Type} {first : Except ε α} {next : α → Except ε β} {result : β} :
    first >>= next = .ok result ↔ ∃ between, first = .ok between ∧ next between = .ok result := by
  cases first with
  | error e => simp [bind, Except.bind]
  | ok between => simp [bind, Except.bind]

structure OnlyDirs (before after : FileSystem) : Prop extends Extends before after where
  fresh : ∀ place node, after.nodeAt? place = some node → before.nodeAt? place = some node ∨ ∃ mode, node = .dir mode

theorem OnlyDirs.refl (fs : FileSystem) : OnlyDirs fs fs := ⟨Extends.refl fs, fun _ _ there => Or.inl there⟩

theorem OnlyDirs.trans {first second third : FileSystem} (left : OnlyDirs first second) (right : OnlyDirs second third) :
    OnlyDirs first third := by
  constructor
  case toExtends => exact left.toExtends.trans right.toExtends
  case fresh =>
    intro place node there
    rcases right.fresh place node there with earlier | dir
    · exact left.fresh place node earlier
    · exact Or.inr dir

theorem createDir_onlyDirs {fs made : FileSystem} {path : String} (created : fs.createDir path = .ok made) :
    OnlyDirs fs made := by
  obtain ⟨here, _, created⟩ := bind_ok_iff.mp created
  split at created
  next node taken => cases created
  next vacant =>
    cases created
    constructor
    case toExtends => exact put_extends vacant _
    case fresh =>
      intro place node there
      rw [nodeAt_put] at there
      by_cases same : place = here
      · rw [if_pos same] at there
        exact Or.inr ⟨dirMode, (Option.some.inj there).symm⟩
      · rw [if_neg same] at there
        exact Or.inl there

-- The tree that making several directories leaves, whether or not all of them could be made.
def leftBy (outcome : Except (IoError × FileSystem) FileSystem) : FileSystem :=
  match outcome with
  | .ok fs => fs
  | .error (_, fs) => fs

theorem createDirs_onlyDirs (fs : FileSystem) (absolute : Bool) (steps : List String) :
    OnlyDirs fs (leftBy (fs.createDirs absolute steps)) := by
  induction steps with
  | nil => exact OnlyDirs.refl fs
  | cons step above ih =>
      simp only [createDirs]
      generalize Path.ofSteps absolute (step :: above).reverse = path
      cases first : fs.createDir path with
      | ok made => exact createDir_onlyDirs first
      | error e =>
          by_cases missing : e.kind = .notFound
          · simp only [if_pos missing]
            cases upper : fs.createDirs absolute above with
            | error failure =>
                rw [upper] at ih
                exact ih
            | ok between =>
                rw [upper] at ih
                simp only [bind, Except.bind]
                cases second : between.createDir path with
                | ok made => exact OnlyDirs.trans ih (createDir_onlyDirs second)
                | error refused =>
                    by_cases there : between.isDir path = true
                    · simp only [if_pos there]
                      exact ih
                    · simp only [if_neg there]
                      exact ih
          · simp only [if_neg missing]
            by_cases there : fs.isDir path = true
            · simp only [if_pos there]
              exact OnlyDirs.refl fs
            · simp only [if_neg there]
              exact OnlyDirs.refl fs

theorem createParents_made {fs made : FileSystem} {path : String} (created : fs.createParents path = .ok made) :
    OnlyDirs fs made := by
  have left := createDirs_onlyDirs fs (Path.isAbsolute path) (Path.steps path).reverse.tail
  rw [← createParents, created] at left
  exact left

theorem createParents_failed {fs made : FileSystem} {path : String} {e : IoError}
    (failed : fs.createParents path = .error (e, made)) : OnlyDirs fs made := by
  have left := createDirs_onlyDirs fs (Path.isAbsolute path) (Path.steps path).reverse.tail
  rw [← createParents, failed] at left
  exact left

def SameDirs (before after : FileSystem) : Prop :=
  ∀ place mode, before.nodeAt? place = some (.dir mode) → ∃ changed, after.nodeAt? place = some (.dir changed)

theorem SameDirs.trans {first second third : FileSystem} (left : SameDirs first second) (right : SameDirs second third) :
    SameDirs first third := by
  intro place bits dir
  obtain ⟨changed, still⟩ := left place bits dir
  exact right place changed still

theorem enter_same {before after : FileSystem} (dirs : SameDirs before after) {place here : Place}
    (entered : before.enter place = .ok here) : after.enter place = .ok here := by
  simp only [enter] at entered ⊢
  cases there : before.nodeAt? place with
  | none =>
      rw [there] at entered
      cases entered
  | some node =>
      cases node with
      | file content mode =>
          rw [there] at entered
          cases entered
      | dir mode =>
          rw [there] at entered
          obtain ⟨changed, still⟩ := dirs place mode there
          rw [still]
          exact entered

theorem follow_same {before after : FileSystem} (dirs : SameDirs before after) {steps : List String} {place goal : Place}
    (followed : before.follow place steps = .ok goal) : after.follow place steps = .ok goal := by
  induction steps generalizing place with
  | nil => exact followed
  | cons step rest ih =>
      obtain ⟨here, entered, followed⟩ := bind_ok_iff.mp followed
      refine bind_ok_iff.mpr ⟨here, enter_same dirs entered, ?_⟩
      split at followed
      next silent =>
        rw [if_pos silent]
        exact ih followed
      next loud =>
        rw [if_neg loud]
        split at followed
        next up =>
          rw [if_pos up]
          exact ih followed
        next down =>
          rw [if_neg down]
          exact ih followed

theorem locate_same {before after : FileSystem} (dirs : SameDirs before after) (workDir : after.workDir = before.workDir)
    {path : String} {place : Place} (located : before.locate path = .ok place) : after.locate path = .ok place := by
  simp only [locate] at located ⊢
  split at located
  · cases located
  · split at located
    · cases located
    · next given plain =>
        rw [if_neg given, if_neg plain, workDir]
        exact follow_same dirs located

theorem Extends.same_dirs {before after : FileSystem} (grown : Extends before after) : SameDirs before after :=
  fun place mode there => ⟨mode, grown.nodes place _ there⟩

theorem put_dirs {fs : FileSystem} {place : Place} (plain : ∀ bits, fs.nodeAt? place ≠ some (.dir bits)) (node : Node) :
    SameDirs fs (fs.put place node) := by
  intro kept bits dir
  have other : kept ≠ place := by
    intro same
    rw [same] at dir
    exact plain bits dir
  rw [nodeAt_put, if_neg other]
  exact ⟨bits, dir⟩

theorem locate_put {fs : FileSystem} {place : Place} (plain : ∀ bits, fs.nodeAt? place ≠ some (.dir bits)) (node : Node)
    {path : String} {other : Place} (located : fs.locate path = .ok other) :
    (fs.put place node).locate path = .ok other :=
  locate_same (put_dirs plain node) rfl located

theorem read_iff (fs : FileSystem) (path : String) (content : Bytes) :
    fs.read path = .ok content ↔
      ∃ place mode, fs.locate path = .ok place ∧ fs.nodeAt? place = some (.file content mode) := by
  simp only [read, node, bind, Except.bind]
  cases located : fs.locate path with
  | error e => simp
  | ok place =>
      cases there : fs.nodeAt? place with
      | none => simp [there]
      | some node =>
          cases node with
          | dir mode => simp [there]
          | file content mode => simp [there]

theorem exists_of_read {fs : FileSystem} {path : String} {content : Bytes} (found : fs.read path = .ok content) :
    fs.exists? path = true := by
  obtain ⟨place, mode, located, there⟩ := (read_iff fs path content).mp found
  simp [exists?, node, bind, Except.bind, located, there, Except.toOption]

def contentAt (fs : FileSystem) (place : Place) : Bytes :=
  match fs.nodeAt? place with
  | some (.file content _) => content
  | _ => []

theorem contentAt_put (fs : FileSystem) (place other : Place) (content : Bytes) (mode : Nat) :
    (fs.put place (.file content mode)).contentAt other = if other = place then content else fs.contentAt other := by
  simp only [contentAt, nodeAt_put]
  by_cases same : other = place
  · rw [if_pos same, if_pos same]
  · rw [if_neg same, if_neg same]

theorem OnlyDirs.content {before after : FileSystem} (dirs : OnlyDirs before after) (place : Place) :
    after.contentAt place = before.contentAt place := by
  cases there : before.nodeAt? place with
  | some node => simp only [contentAt, there, dirs.nodes place node there]
  | none =>
      cases now : after.nodeAt? place with
      | none => simp only [contentAt, there, now]
      | some node =>
          rcases dirs.fresh place node now with earlier | ⟨mode, rfl⟩
          · rw [there] at earlier
            cases earlier
          · simp only [contentAt, there, now]

theorem update_content {fs after : FileSystem} {path : String} {change : Bytes → Bytes}
    (updated : fs.update path change = .ok after) :
    ∃ place mode, fs.locate path = .ok place ∧ (∀ bits, fs.nodeAt? place ≠ some (.dir bits)) ∧
      after = fs.put place (.file (change (fs.contentAt place)) mode) := by
  simp only [update, bind, Except.bind] at updated
  split at updated
  · cases updated
  · cases located : fs.locate path with
    | error e =>
        rw [located] at updated
        cases updated
    | ok place =>
        rw [located] at updated
        cases there : fs.nodeAt? place with
        | none =>
            simp only [there] at updated
            cases updated
            exact ⟨place, fileMode, rfl, by simp [there], by simp [contentAt, there]⟩
        | some node =>
            cases node with
            | dir mode =>
                simp only [there] at updated
                cases updated
            | file old mode =>
                simp only [there] at updated
                cases updated
                exact ⟨place, mode, rfl, by simp [there], by simp [contentAt, there]⟩

theorem update_places {fs after : FileSystem} {path : String} {change : Bytes → Bytes}
    (updated : fs.update path change = .ok after) :
    ∃ place content mode, fs.locate path = .ok place ∧ (∀ bits, fs.nodeAt? place ≠ some (.dir bits)) ∧
      (∀ old bits, fs.nodeAt? place = some (.file old bits) → content = old) ∧
      after = fs.put place (.file (change content) mode) := by
  obtain ⟨place, mode, located, plain, stored⟩ := update_content updated
  refine ⟨place, _, mode, located, plain, ?_, stored⟩
  intro old bits there
  simp only [contentAt, there]

theorem read_update {fs after : FileSystem} {path : String} {change : Bytes → Bytes}
    (updated : fs.update path change = .ok after) :
    ∃ content, after.read path = .ok (change content) ∧ ∀ old, fs.read path = .ok old → content = old := by
  obtain ⟨place, content, mode, located, plain, kept, stored⟩ := update_places updated
  refine ⟨content, ?_, ?_⟩
  · rw [stored]
    exact (read_iff _ path _).mpr ⟨place, mode, locate_put plain _ located, by rw [nodeAt_put, if_pos rfl]⟩
  · intro old found
    obtain ⟨same, bits, again, file⟩ := (read_iff fs path old).mp found
    rw [located] at again
    cases again
    exact kept old bits file

theorem read_extends {fs grown : FileSystem} {path : String} {content : Bytes} (wider : Extends fs grown)
    (found : fs.read path = .ok content) : grown.read path = .ok content := by
  obtain ⟨place, mode, located, there⟩ := (read_iff fs path content).mp found
  exact (read_iff grown path content).mpr
    ⟨place, mode, locate_same wider.same_dirs wider.workDir located, wider.nodes place _ there⟩

def Appended (before after : FileSystem) (path : String) (bytes : Bytes) : Prop :=
  ∃ place, after.locate path = .ok place ∧ after.read path = .ok (before.contentAt place ++ bytes) ∧
    (∀ old, before.read path = .ok old → before.contentAt place = old) ∧
    ∀ other, other ≠ place → after.contentAt other = before.contentAt other

theorem put_put (fs : FileSystem) (place : Place) (node other : Node) : (fs.put place node).put place other = fs.put place other := by
  simp [put, List.filter_filter]

theorem put_appended {fs ready : FileSystem} {path : String} {place : Place} (made : fs.createParents path = .ok ready)
    (located : ready.locate path = .ok place) (plain : ∀ bits, ready.nodeAt? place ≠ some (.dir bits)) (bytes : Bytes)
    (mode : Nat) :
    Appended fs (ready.put place (.file (ready.contentAt place ++ bytes) mode)) path bytes := by
  have same := (createParents_made made).content
  have leads := locate_put plain (.file (ready.contentAt place ++ bytes) mode) located
  refine ⟨place, leads, ?_, ?_, ?_⟩
  · rw [← same place]
    exact (read_iff _ path _).mpr ⟨place, mode, leads, by rw [nodeAt_put, if_pos rfl]⟩
  · intro old found
    obtain ⟨there, bits, again, file⟩ := (read_iff ready path old).mp (read_extends (createParents_made made).toExtends found)
    rw [located] at again
    cases again
    rw [← same place]
    simp only [contentAt, file]
  · intro other apart
    rw [contentAt_put, if_neg apart, same other]

theorem openAppend_places {fs opened : FileSystem} {path : String} {place : Place}
    (opens : fs.openAppend path = .ok (place, opened)) :
    ∃ mode, fs.locate path = .ok place ∧ (∀ bits, fs.nodeAt? place ≠ some (.dir bits)) ∧
      opened = fs.put place (.file (fs.contentAt place) mode) := by
  obtain ⟨stored, updated, opens⟩ := bind_ok_iff.mp opens
  obtain ⟨there, found, opens⟩ := bind_ok_iff.mp opens
  cases opens
  obtain ⟨here, mode, located, plain, rfl⟩ := update_content updated
  cases found.symm.trans (locate_put plain _ located)
  exact ⟨mode, located, plain, rfl⟩

section Open

def Allows (fs : FileSystem) (place : Place) (size : Nat) : Prop :=
  ∀ limit, fs.limits.lookup place = some limit → size ≤ limit.size

theorem allows_or_limited (fs : FileSystem) (place : Place) (size : Nat) :
    fs.Allows place size ∨ ∃ limit, fs.limits.lookup place = some limit ∧ limit.size < size := by
  cases limited : fs.limits.lookup place with
  | none =>
      left
      intro limit found
      rw [limited] at found
      cases found
  | some limit =>
      cases Nat.lt_or_ge limit.size size with
      | inl short => exact Or.inr ⟨limit, rfl, short⟩
      | inr fits =>
          left
          intro found same
          rw [limited] at same
          exact Option.some.inj same ▸ fits

theorem Allows.mono {fs : FileSystem} {place : Place} {size less : Nat} (allows : fs.Allows place size) (shorter : less ≤ size) :
    fs.Allows place less :=
  fun limit limited => Nat.le_trans shorter (allows limit limited)

variable {fs : FileSystem} {place : Place} {content bytes : Bytes} {mode : Nat} {limit : Limit}

theorem appendAt_whole (file : fs.nodeAt? place = some (.file content mode))
    (allows : fs.Allows place (content.length + bytes.length)) :
    fs.appendAt place bytes = .ok (fs.put place (.file (content ++ bytes) mode)) := by
  simp only [appendAt, file]
  cases limited : fs.limits.lookup place with
  | none => rfl
  | some limit => exact if_pos (allows limit limited)

theorem appendAt_short (file : fs.nodeAt? place = some (.file content mode))
    (limited : fs.limits.lookup place = some limit) (short : limit.size < content.length + bytes.length) :
    fs.appendAt place bytes =
      .error (limit.refusal, fs.put place (.file (content ++ bytes.take (limit.size - content.length)) mode)) := by
  simp only [appendAt, file, limited]
  exact if_neg (Nat.not_le_of_lt short)

-- A second write goes on where the first one left off, unless that was cut short.
theorem appendAt_append (file : fs.nodeAt? place = some (.file content mode)) (bytes later : Bytes) :
    (fs.appendAt place bytes >>= fun fs => fs.appendAt place later) = fs.appendAt place (bytes ++ later) := by
  have between : (fs.put place (.file (content ++ bytes) mode)).nodeAt? place = some (.file (content ++ bytes) mode) := by
    rw [nodeAt_put, if_pos rfl]
  have total : (content ++ bytes).length + later.length = content.length + (bytes ++ later).length := by
    simp only [List.length_append, Nat.add_assoc]
  have first_less : content.length + bytes.length ≤ content.length + (bytes ++ later).length := by simp
  cases fs.allows_or_limited place (content.length + (bytes ++ later).length) with
  | inl whole =>
      rw [appendAt_whole file (whole.mono first_less), appendAt_whole file whole]
      show (fs.put place (.file (content ++ bytes) mode)).appendAt place later = _
      rw [appendAt_whole between (total ▸ whole), put_put, List.append_assoc]
  | inr limited =>
      obtain ⟨limit, limited, short⟩ := limited
      rw [appendAt_short file limited short]
      by_cases first : limit.size < content.length + bytes.length
      · rw [appendAt_short file limited first, List.take_append_of_le_length (by omega)]
        rfl
      · have fits : fs.Allows place (content.length + bytes.length) := by
          intro found same
          rw [limited] at same
          exact Option.some.inj same ▸ Nat.le_of_not_lt first
        have rest : limit.size - (content ++ bytes).length = limit.size - content.length - bytes.length := by
          rw [List.length_append, Nat.sub_add_eq]
        rw [appendAt_whole file fits]
        show (fs.put place (.file (content ++ bytes) mode)).appendAt place later = _
        have reach : bytes.length ≤ limit.size - content.length := by omega
        rw [appendAt_short between limited (total ▸ short), put_put, rest, List.take_append, List.take_of_length_le reach,
          List.append_assoc]

theorem appendAt_keeps {after : FileSystem} (file : fs.nodeAt? place = some (.file content mode))
    (written : fs.appendAt place bytes = .ok after) : ∃ more, after.nodeAt? place = some (.file more mode) := by
  simp only [appendAt, file] at written
  split at written
  next free =>
    cases written
    exact ⟨_, by rw [nodeAt_put, if_pos rfl]⟩
  next limit limited =>
    split at written
    next fits =>
      cases written
      exact ⟨_, by rw [nodeAt_put, if_pos rfl]⟩
    next short => cases written

theorem appendLines_text (file : fs.nodeAt? place = some (.file content mode)) (line : String) (rest : List String) :
    fs.appendLines place (line :: rest) =
      fs.appendAt place (Bytes.ofString (String.join ((line :: rest).map (· ++ "\n")))) := by
  induction rest generalizing fs content line with
  | nil =>
      have text : String.join ([line].map (· ++ "\n")) = line ++ "\n" := by simp [String.join]
      rw [text, appendLines]
      cases fs.appendAt place (Bytes.ofString (line ++ "\n")) with
      | error failure => rfl
      | ok after => rfl
  | cons next later ih =>
      have text : String.join ((line :: next :: later).map (· ++ "\n")) =
          (line ++ "\n") ++ String.join ((next :: later).map (· ++ "\n")) := by
        rw [List.map_cons, String.join_cons]
      rw [text, Bytes.ofString_append, ← appendAt_append file, appendLines]
      cases written : fs.appendAt place (Bytes.ofString (line ++ "\n")) with
      | error failure => rfl
      | ok after =>
          obtain ⟨more, kept⟩ := appendAt_keeps file written
          exact ih kept next

end Open

section Written

variable {fs ready opened after : FileSystem} {path : String} {place : Place} {bytes : Bytes}

theorem put_dirs_made (made : fs.createParents path = .ok ready) (plain : ∀ bits, ready.nodeAt? place ≠ some (.dir bits))
    (node : Node) : SameDirs fs (ready.put place node) ∧ (ready.put place node).workDir = fs.workDir := by
  have grown := (createParents_made made).toExtends
  constructor
  · intro kept bits dir
    exact put_dirs plain _ kept bits (grown.nodes kept _ dir)
  · exact grown.workDir

structure Grown (before after : FileSystem) (path : String) (bytes : Bytes) : Prop where
  dirs : SameDirs before after
  workDir : after.workDir = before.workDir
  appended : Appended before after path bytes

theorem put_grown (made : fs.createParents path = .ok ready) (opens : ready.openAppend path = .ok (place, opened)) :
    ∃ mode, opened.nodeAt? place = some (.file (opened.contentAt place) mode) ∧
      ∀ bytes, Grown fs (opened.put place (.file (opened.contentAt place ++ bytes) mode)) path bytes := by
  obtain ⟨mode, located, plain, rfl⟩ := openAppend_places opens
  have content : (ready.put place (.file (ready.contentAt place) mode)).contentAt place = ready.contentAt place := by
    rw [contentAt_put, if_pos rfl]
  refine ⟨mode, by rw [content, nodeAt_put, if_pos rfl], fun bytes => ?_⟩
  rw [put_put, content]
  obtain ⟨dirs, workDir⟩ := put_dirs_made made plain (.file (ready.contentAt place ++ bytes) mode)
  exact ⟨dirs, workDir, put_appended made located plain bytes mode⟩

end Written

section Composing

variable {first second third : FileSystem} {path : String} {one other : Bytes}

theorem OnlyDirs.appended (dirs : OnlyDirs first second) (appended : Appended second third path other) :
    Appended first third path other := by
  obtain ⟨place, located, now, kept, elsewhere⟩ := appended
  refine ⟨place, located, ?_, ?_, ?_⟩
  · rw [← dirs.content place]
    exact now
  · intro old found
    rw [← dirs.content place]
    exact kept old (read_extends dirs.toExtends found)
  · intro apart different
    rw [elsewhere apart different, dirs.content apart]

theorem Appended.onlyDirs (appended : Appended first second path one) (dirs : OnlyDirs second third) :
    Appended first third path one := by
  obtain ⟨place, located, now, kept, elsewhere⟩ := appended
  refine ⟨place, locate_same dirs.toExtends.same_dirs dirs.workDir located, read_extends dirs.toExtends now, kept, ?_⟩
  intro apart different
  rw [dirs.content apart, elsewhere apart different]

theorem Appended.trans (before : Appended first second path one) (dirs : SameDirs second third)
    (workDir : third.workDir = second.workDir) (after : Appended second third path other) :
    Appended first third path (one ++ other) := by
  obtain ⟨place, located, now, kept, elsewhere⟩ := before
  obtain ⟨there, leads, then_read, found, untouched⟩ := after
  have same : there = place := Except.ok.inj (leads.symm.trans (locate_same dirs workDir located))
  rw [same] at then_read found untouched leads
  refine ⟨place, leads, ?_, kept, ?_⟩
  · rw [then_read, found _ now, List.append_assoc]
  · intro apart different
    rw [untouched apart different, elsewhere apart different]

theorem Grown.trans (before : Grown first second path one) (after : Grown second third path other) :
    Grown first third path (one ++ other) where
  dirs := before.dirs.trans after.dirs
  workDir := after.workDir.trans before.workDir
  appended := before.appended.trans after.dirs after.workDir after.appended

theorem OnlyDirs.grown (dirs : OnlyDirs first second) (grown : Grown second third path other) : Grown first third path other where
  dirs := dirs.toExtends.same_dirs.trans grown.dirs
  workDir := grown.workDir.trans dirs.workDir
  appended := dirs.appended grown.appended

theorem Grown.onlyDirs (grown : Grown first second path one) (dirs : OnlyDirs second third) : Grown first third path one where
  dirs := grown.dirs.trans dirs.toExtends.same_dirs
  workDir := dirs.workDir.trans grown.workDir
  appended := grown.appended.onlyDirs dirs

-- No file has changed but for some bytes at the end of this one, which may also be missing still.
def Gained (before after : FileSystem) (path : String) (bytes : Bytes) : Prop :=
  (bytes = [] ∧ OnlyDirs before after) ∨ Grown before after path bytes

theorem Gained.unique (before : Gained first second path one) (after : Gained first second path other) : one = other := by
  have nothing : ∀ {bytes}, OnlyDirs first second → Appended first second path bytes → bytes = [] := by
    intro bytes dirs appended
    obtain ⟨place, located, now, _, _⟩ := appended
    obtain ⟨there, mode, again, file⟩ := (read_iff _ _ _).mp now
    rw [located] at again
    cases again
    have kept := dirs.content place
    rw [contentAt, file] at kept
    exact List.append_right_eq_self.mp kept
  cases before with
  | inl unopened =>
      cases after with
      | inl again => rw [unopened.1, again.1]
      | inr grown => rw [unopened.1, nothing unopened.2 grown.appended]
  | inr grown =>
      cases after with
      | inl unopened => rw [unopened.1, nothing unopened.2 grown.appended]
      | inr again =>
          obtain ⟨place, located, now, _, _⟩ := grown.appended
          obtain ⟨there, located_again, now_again, _, _⟩ := again.appended
          cases located.symm.trans located_again
          exact List.append_cancel_left (Except.ok.inj (now.symm.trans now_again))

theorem Gained.trans (before : Gained first second path one) (after : Gained second third path other) :
    Gained first third path (one ++ other) := by
  cases before with
  | inl unopened =>
      rw [unopened.1, List.nil_append]
      cases after with
      | inl later => exact Or.inl ⟨later.1, unopened.2.trans later.2⟩
      | inr grown => exact Or.inr (unopened.2.grown grown)
  | inr grown =>
      right
      cases after with
      | inl later =>
          rw [later.1, List.append_nil]
          exact grown.onlyDirs later.2
      | inr later => exact grown.trans later

end Composing
end RemoteExec.FileSystem

import RemoteExec.Proofs.HostKeys.Reloading
import RemoteExec.Proofs.Text.Fields

namespace RemoteExec.KnownHosts

open Text

section Statuses

def Tells (recorded : KnownKey → Prop) (pattern keyType key : String) : KeyStatus → Prop
  | .verified => recorded ⟨pattern, keyType, key⟩
  | .changed => (∃ other, recorded ⟨pattern, keyType, other⟩) ∧ ¬ recorded ⟨pattern, keyType, key⟩
  | .unknown => ∀ other, ¬ recorded ⟨pattern, keyType, other⟩

variable {recorded other : KnownKey → Prop} {pattern keyType key : String}

theorem tells_unique {one two : KeyStatus} (first : Tells recorded pattern keyType key one)
    (second : Tells recorded pattern keyType key two) : one = two := by
  cases one with
  | verified =>
      cases two with
      | verified => rfl
      | unknown => exact absurd first (second key)
      | changed => exact absurd first second.2
  | unknown =>
      cases two with
      | verified => exact absurd second (first key)
      | unknown => rfl
      | changed =>
          obtain ⟨recordedKey, there⟩ := second.1
          exact absurd there (first recordedKey)
  | changed =>
      cases two with
      | verified => exact absurd second first.2
      | unknown =>
          obtain ⟨recordedKey, there⟩ := first.1
          exact absurd there (second recordedKey)
      | changed => rfl

theorem tells_congr (same : ∀ key, recorded ⟨pattern, keyType, key⟩ ↔ other ⟨pattern, keyType, key⟩) (status : KeyStatus) :
    Tells recorded pattern keyType key status ↔ Tells other pattern keyType key status := by
  cases status with
  | verified => exact same key
  | unknown => simp only [Tells, same]
  | changed => simp only [Tells, same]

theorem status_tells (store : KnownHosts) (host : String) (port : Nat) (keyType key : String) :
    Tells (· ∈ store.keys) (hostPattern host port) keyType key (store.status host port keyType key) := by
  have listed : ∀ k, k ∈ (store.keys.filter fun k => k.pattern == hostPattern host port && k.keyType == keyType) ↔
      k ∈ store.keys ∧ k.pattern = hostPattern host port ∧ k.keyType = keyType := by
    intro k
    rw [List.mem_filter, Bool.and_eq_true, beq_iff_eq, beq_iff_eq]
  by_cases known : ⟨hostPattern host port, keyType, key⟩ ∈ store.keys
  · rw [(status_verified_iff store host port keyType key).mpr known]
    exact known
  · have unverified : ¬ store.status host port keyType key = .verified :=
      fun verified => known ((status_verified_iff store host port keyType key).mp verified)
    simp only [status] at unverified ⊢
    split
    next found => exact absurd (if_pos found) unverified
    next unfound =>
      split
      next none =>
        intro other there
        have member := (listed ⟨_, _, other⟩).mpr ⟨there, rfl, rfl⟩
        rw [List.isEmpty_iff.mp none] at member
        cases member
      next some_listed =>
        obtain ⟨k, member⟩ := List.exists_mem_of_ne_nil _ fun none => some_listed (List.isEmpty_iff.mpr none)
        obtain ⟨there, pattern, type⟩ := (listed k).mp member
        rw [← pattern, ← type] at known ⊢
        exact ⟨⟨k.key, there⟩, known⟩

theorem check_iff (store : KnownHosts) (host : String) (port : Nat) (keyType key : String) (answer : KeyStatus) :
    (store.check host port keyType key).1 = answer ↔ Tells (· ∈ store.keys) (hostPattern host port) keyType key answer := by
  rw [check_status]
  constructor
  · intro same
    rw [← same]
    exact status_tells store host port keyType key
  · intro told
    exact tells_unique (status_tells store host port keyType key) told

end Statuses

section Lines

variable {line : List Char} {k : KnownKey}

-- The line tells a name, a key type and a key: it is no comment and has no mark, its first field is a list of names with
-- commas between them, and the name is not hashed.
inductive Lists (line : List Char) : KnownKey → Prop
  | entry {names : List (List Char)} {name keyType key : List Char}
      (plain : ∀ c, (trim line).head? = some c → c ≠ '#' ∧ c ≠ '@')
      (fields : Starts [[','].intercalate names, keyType, key] line) (apart : ∀ n ∈ names, ',' ∉ n)
      (listed : name ∈ names) (unhashed : name.head? ≠ some '|') :
      Lists line ⟨String.ofList (lower name), String.ofList keyType, String.ofList key⟩

theorem readLine_eq (line names keyType key : List Char) (more : List (List Char))
    (fields : words line = names :: keyType :: key :: more) :
    readLine line =
      if names.head? = some '#' ∨ names.head? = some '@' then []
      else ((splitOn ',' names).filter fun n => n.head? != some '|').map fun n =>
        ⟨String.ofList (lower n), String.ofList keyType, String.ofList key⟩ := by
  simp only [readLine, fields, Bool.or_eq_true, beq_iff_eq]

theorem mem_readLine_iff : k ∈ readLine line ↔ Lists line k := by
  have begins := head_trim line
  constructor
  · intro member
    have full : ∃ names keyType key more, words line = names :: keyType :: key :: more := by
      unfold readLine at member
      split at member
      next names keyType key more fields => exact ⟨names, keyType, key, more, fields⟩
      next => cases member
    obtain ⟨names, keyType, key, more, fields⟩ := full
    rw [fields] at begins
    rw [readLine_eq line names keyType key more fields] at member
    split at member
    next => cases member
    next plain =>
      obtain ⟨name, unhashed, rfl⟩ := List.mem_map.mp member
      obtain ⟨listed, head⟩ := List.mem_filter.mp unhashed
      obtain ⟨_, apart, joined⟩ := splitOn_eq_iff.mp (rfl : splitOn ',' names = _)
      apply Lists.entry ?plain ?fields apart listed (bne_iff_ne.mp head)
      case plain =>
        intro c first
        rw [begins] at first
        constructor
        · intro comment
          exact plain (Or.inl (by rw [← comment]; exact first))
        · intro mark
          exact plain (Or.inr (by rw [← mark]; exact first))
      case fields =>
        rw [joined]
        exact starts_iff.mpr ⟨more, fields⟩
  · intro lists
    obtain ⟨plain, fields, apart, listed, unhashed⟩ := lists
    rename_i names name keyType key
    obtain ⟨more, read⟩ := starts_iff.mp fields
    have cut : splitOn ',' ([','].intercalate names) = names :=
      splitOn_eq_iff.mpr ⟨List.ne_nil_of_mem listed, apart, rfl⟩
    have unmarked : ¬ (([','].intercalate names).head? = some '#' ∨ ([','].intercalate names).head? = some '@') := by
      rw [read] at begins
      intro marked
      cases marked with
      | inl comment => exact (plain '#' (begins.trans comment)).1 rfl
      | inr mark => exact (plain '@' (begins.trans mark)).2 rfl
    rw [readLine_eq line _ keyType key more read, if_neg unmarked, cut]
    exact List.mem_map.mpr ⟨name, List.mem_filter.mpr ⟨listed, bne_iff_ne.mpr unhashed⟩, rfl⟩

def Recorded (content : String) (k : KnownKey) : Prop := ∃ line ∈ lines content.toList, Lists line k

theorem mem_readKeys_iff (content : String) : k ∈ readKeys content ↔ Recorded content k := by
  simp only [readKeys, List.mem_flatMap, mem_readLine_iff, Recorded]

inductive Silent (line : List Char) : Prop
  | blank (gap : ∀ c ∈ line, isBlank c = true)
  | marked {c : Char} (first : (trim line).head? = some c) (mark : c = '#' ∨ c = '@')
  | short (few : ∀ one two three, ¬ Starts [one, two, three] line)
  | hashed {names : List (List Char)} (field : Starts [[','].intercalate names] line) (apart : ∀ n ∈ names, ',' ∉ n)
      (each : ∀ n ∈ names, n.head? = some '|')

theorem Silent.lists_none (silent : Silent line) : ¬ Lists line k := by
  intro lists
  obtain ⟨plain, fields, apart, listed, unhashed⟩ := lists
  obtain ⟨more, read⟩ := starts_iff.mp fields
  cases silent with
  | blank gap =>
      have empty := words_blanks gap []
      rw [List.append_nil, read] at empty
      cases empty
  | marked first mark =>
      cases mark with
      | inl comment => exact (plain _ first).1 comment
      | inr mark => exact (plain _ first).2 mark
  | short few => exact few _ _ _ fields
  | @hashed hashes field others each =>
      have some_names := List.ne_nil_of_mem listed
      obtain ⟨rest, begun⟩ := starts_iff.mp field
      rw [read] at begun
      injection begun with same _
      have some_hashes : hashes ≠ [] := by
        intro none
        apply field.given
        rw [none]
        rfl
      have cut := splitOn_eq_iff.mpr ⟨some_names, apart, same⟩
      rw [splitOn_eq_iff.mpr ⟨some_hashes, others, rfl⟩] at cut
      rw [← cut] at listed
      exact unhashed (each _ listed)

def Alike (one other : List Char) : Prop :=
  one = other ∨ ∃ names keyType key, Starts [names, keyType, key] one ∧ Starts [names, keyType, key] other

theorem Alike.symm {one other : List Char} (alike : Alike one other) : Alike other one := by
  cases alike with
  | inl same => exact Or.inl same.symm
  | inr fields =>
      obtain ⟨names, keyType, key, first, second⟩ := fields
      exact Or.inr ⟨names, keyType, key, second, first⟩

theorem Alike.readLine_same {one other : List Char} (alike : Alike one other) : readLine one = readLine other := by
  cases alike with
  | inl same => rw [same]
  | inr fields =>
      obtain ⟨names, keyType, key, first, second⟩ := fields
      obtain ⟨more, read⟩ := starts_iff.mp first
      obtain ⟨others, again⟩ := starts_iff.mp second
      rw [readLine_eq one names keyType key more read, readLine_eq other names keyType key others again]

def Covers (content other : String) : Prop :=
  ∀ line ∈ lines other.toList, Silent line ∨ ∃ found ∈ lines content.toList, Alike found line

theorem Covers.recorded {content other : String} (covers : Covers content other) {k : KnownKey}
    (recorded : Recorded other k) : Recorded content k := by
  obtain ⟨line, member, lists⟩ := recorded
  cases covers line member with
  | inl silent => exact absurd lists silent.lists_none
  | inr counterpart =>
      obtain ⟨found, inside, alike⟩ := counterpart
      rw [← mem_readLine_iff, ← alike.readLine_same, mem_readLine_iff] at lists
      exact ⟨found, inside, lists⟩

theorem answers_by_lines {fs : FileSystem} {path content : String} (found : fs.readText path = .ok content) :
    ∃ store, (load fs path).1 = .ok store ∧
      (∀ host port keyType key,
        ((store.check host port keyType key).1 = .verified ↔ Recorded content ⟨hostPattern host port, keyType, key⟩) ∧
        ((store.check host port keyType key).1 = .changed ↔
          (∃ other, Recorded content ⟨hostPattern host port, keyType, other⟩) ∧
            ¬ Recorded content ⟨hostPattern host port, keyType, key⟩) ∧
        ((store.check host port keyType key).1 = .unknown ↔
          ∀ other, ¬ Recorded content ⟨hostPattern host port, keyType, other⟩)) ∧
      ∀ (disk : FileSystem) (place other : String), disk.readText place = .ok other → Covers content other →
        Covers other content → ∃ rearranged, (load disk place).1 = .ok rearranged ∧ rearranged.Agrees store := by
  have decided : ∀ (text place : String) host port keyType key answer,
      ((⟨place, readKeys text, []⟩ : KnownHosts).check host port keyType key).1 = answer ↔
        Tells (Recorded text) (hostPattern host port) keyType key answer := by
    intro text place host port keyType key answer
    rw [check_iff]
    exact tells_congr (fun _ => mem_readKeys_iff text) answer
  refine ⟨_, load_text found, ?_, ?_⟩
  · intro host port keyType key
    exact ⟨decided _ _ _ _ _ _ .verified, decided _ _ _ _ _ _ .changed, decided _ _ _ _ _ _ .unknown⟩
  · intro disk place other again covers covered
    refine ⟨_, load_text again, ?_⟩
    apply (agrees_iff (readKeys_named other) (readKeys_named content)).mpr
    intro k
    rw [mem_readKeys_iff, mem_readKeys_iff]
    exact ⟨covers.recorded, covered.recorded⟩

theorem alike_of_words {one other names keyType key : List Char} {more others : List (List Char)}
    (first : words one = names :: keyType :: key :: more) (second : words other = names :: keyType :: key :: others) :
    Alike one other :=
  Or.inr ⟨names, keyType, key, starts_iff.mpr ⟨more, first⟩, starts_iff.mpr ⟨others, second⟩⟩

def posted : String := "#\nweb,db rsa A me\nweb rsa B\n"

def reposted : String := "web rsa B old\n|1| rsa C\n\n web,db rsa A\nweb rsa B\n"

theorem covers_reposted : Covers posted reposted ∧ Covers reposted posted := by
  have before : lines posted.toList = ["#".toList, "web,db rsa A me".toList, "web rsa B".toList] := by decide +kernel
  have after : lines reposted.toList =
      ["web rsa B old".toList, "|1| rsa C".toList, [], " web,db rsa A".toList, "web rsa B".toList] := by decide +kernel
  have commented : words "web,db rsa A me".toList = "web,db".toList :: "rsa".toList :: "A".toList :: ["me".toList] := by
    decide +kernel
  have indented : words " web,db rsa A".toList = "web,db".toList :: "rsa".toList :: "A".toList :: [] := by decide +kernel
  have bare : words "web rsa B".toList = "web".toList :: "rsa".toList :: "B".toList :: [] := by decide +kernel
  have trailed : words "web rsa B old".toList = "web".toList :: "rsa".toList :: "B".toList :: ["old".toList] := by
    decide +kernel
  have aliased : Alike "web,db rsa A me".toList " web,db rsa A".toList := alike_of_words commented indented
  have alone : Alike "web rsa B".toList "web rsa B old".toList := alike_of_words bare trailed
  have begun : Starts [[','].intercalate ["|1|".toList]] "|1| rsa C".toList :=
    starts_iff.mpr ⟨["rsa".toList, "C".toList], by decide +kernel⟩
  have hashed : Silent "|1| rsa C".toList := Silent.hashed begun (by decide +kernel) (by decide +kernel)
  have comment : Silent "#".toList := Silent.marked (c := '#') (by decide +kernel) (Or.inl rfl)
  constructor
  · intro line member
    rw [after] at member
    simp only [List.mem_cons, List.not_mem_nil, or_false] at member
    obtain rfl | rfl | rfl | rfl | rfl := member
    · exact Or.inr ⟨"web rsa B".toList, by simp only [before, List.mem_cons, true_or, or_true], alone⟩
    · exact Or.inl hashed
    · exact Or.inl (Silent.blank (List.forall_mem_nil _))
    · exact Or.inr ⟨"web,db rsa A me".toList, by simp only [before, List.mem_cons, true_or, or_true], aliased⟩
    · exact Or.inr ⟨_, by simp only [before, List.mem_cons, true_or, or_true], Or.inl rfl⟩
  · intro line member
    rw [before] at member
    simp only [List.mem_cons, List.not_mem_nil, or_false] at member
    obtain rfl | rfl | rfl := member
    · exact Or.inl comment
    · exact Or.inr ⟨" web,db rsa A".toList, by simp only [after, List.mem_cons, true_or, or_true], aliased.symm⟩
    · exact Or.inr ⟨_, by simp only [after, List.mem_cons, true_or, or_true], Or.inl rfl⟩

theorem reposted_answers :
    ∃ store rearranged, (load (onDisk posted) "known_hosts").1 = .ok store ∧
      (load (onDisk reposted) "known_hosts").1 = .ok rearranged ∧ rearranged.Agrees store ∧
      (store.check "Web" 22 "rsa" "B").1 = .verified ∧
      (store.check "Web" 22 "rsa" "C").1 = .changed := by
  have found : (onDisk posted).readText "known_hosts" = .ok posted := by decide +kernel
  have again : (onDisk reposted).readText "known_hosts" = .ok reposted := by decide +kernel
  obtain ⟨covers, covered⟩ := covers_reposted
  obtain ⟨store, loaded, answers, rearranged⟩ := answers_by_lines found
  obtain ⟨other, reloaded, agrees⟩ := rearranged _ _ _ again covers covered
  obtain ⟨verified, _, _⟩ := answers "Web" 22 "rsa" "B"
  obtain ⟨_, changed, _⟩ := answers "Web" 22 "rsa" "C"
  have pattern : hostPattern "Web" 22 = "web" := by decide +kernel
  have known : Recorded posted ⟨"web", "rsa", "B"⟩ := (mem_readKeys_iff posted).mp (by decide +kernel)
  have other_only : ¬ Recorded posted ⟨"web", "rsa", "C"⟩ := by
    rw [← mem_readKeys_iff]
    decide +kernel
  rw [pattern] at verified changed
  exact ⟨store, other, loaded, reloaded, agrees, verified.mpr known, changed.mpr ⟨⟨"B", known⟩, other_only⟩⟩

end Lines

end RemoteExec.KnownHosts

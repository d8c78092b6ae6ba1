import RemoteExec.HostKeys.KnownHosts
import RemoteExec.Proofs.Text.Lines
import RemoteExec.Proofs.Text.Lowercase

namespace RemoteExec

namespace KnownHosts

theorem status_verified_iff (store : KnownHosts) (host : String) (port : Nat) (keyType key : String) :
    store.status host port keyType key = .verified ↔ ⟨hostPattern host port, keyType, key⟩ ∈ store.keys := by
  simp only [status]
  constructor
  · intro verified
    split at verified
    next found =>
      obtain ⟨k, member, same⟩ := List.any_eq_true.mp found
      obtain ⟨inside, rfl⟩ : k ∈ store.keys ∧ k = ⟨hostPattern host port, keyType, key⟩ := by
        cases k
        simpa [and_assoc] using And.intro member same
      exact inside
    next other =>
      split at verified
      · cases verified
      · cases verified
  · intro member
    rw [if_pos]
    refine List.any_eq_true.mpr ⟨_, List.mem_filter.mpr ⟨member, by simp⟩, by simp⟩

theorem status_of_keys {one other : KnownHosts} (same : ∀ k, k ∈ one.keys ↔ k ∈ other.keys) (host : String) (port : Nat)
    (keyType key : String) : one.status host port keyType key = other.status host port keyType key := by
  have any_same : ∀ p : KnownKey → Bool, one.keys.any p = other.keys.any p := by
    intro p
    rw [Bool.eq_iff_iff, List.any_eq_true, List.any_eq_true]
    simp only [same]
  have filter_any : ∀ (keys : List KnownKey) (p q : KnownKey → Bool),
      (keys.filter p).any q = keys.any fun k => p k && q k := fun _ _ _ => List.any_filter
  have filter_empty : ∀ (keys : List KnownKey) (p : KnownKey → Bool), (keys.filter p).isEmpty = !keys.any p := by
    intro keys p
    induction keys with
    | nil => rfl
    | cons k rest ih => cases taken : p k <;> simp [taken, ih]
  simp only [status, filter_any, filter_empty, any_same]

def Agrees (one other : KnownHosts) : Prop :=
  ∀ host port keyType key, one.check host port keyType key = other.check host port keyType key

theorem check_status (store : KnownHosts) (host : String) (port : Nat) (keyType key : String) :
    (store.check host port keyType key).1 = store.status host port keyType key := by
  simp only [check]
  cases store.status host port keyType key with
  | verified => rfl
  | unknown => rfl
  | changed => rfl

theorem check_verified_iff (store : KnownHosts) (host : String) (port : Nat) (keyType key : String) :
    (store.check host port keyType key).1 = .verified ↔ ⟨hostPattern host port, keyType, key⟩ ∈ store.keys := by
  rw [check_status, status_verified_iff]

def Named (k : KnownKey) : Prop := k.pattern.lowercase = k.pattern

theorem agrees_iff {one other : KnownHosts} (named : ∀ k ∈ one.keys, Named k) (others : ∀ k ∈ other.keys, Named k) :
    Agrees one other ↔ ∀ k, k ∈ one.keys ↔ k ∈ other.keys := by
  constructor
  · intro agree k
    have asked : Named k → (k ∈ one.keys ↔ k ∈ other.keys) := by
      intro name
      have pattern : hostPattern k.pattern 22 = k.pattern := by
        simp only [hostPattern, if_true]
        exact name
      have same := agree k.pattern 22 k.keyType k.key
      have left := check_verified_iff one k.pattern 22 k.keyType k.key
      rw [same, check_verified_iff, pattern] at left
      exact left.symm
    constructor
    · exact fun member => (asked (named k member)).mp member
    · exact fun member => (asked (others k member)).mpr member
  · intro same host port keyType key
    simp only [check, status_of_keys same]

structure Writable (k : KnownKey) : Prop where
  pattern_given : k.pattern ≠ ""
  pattern_whole : ∀ c ∈ k.pattern.toList, Text.isBlank c = false ∧ c ≠ ',' ∧ Text.Settled c
  pattern_plain : ∀ c, k.pattern.toList.head? = some c → c ∉ ['#', '@', '|']
  keyType_given : k.keyType ≠ ""
  keyType_whole : ∀ c ∈ k.keyType.toList, Text.isBlank c = false
  key_given : k.key ≠ ""
  key_whole : ∀ c ∈ k.key.toList, Text.isBlank c = false

def line (k : KnownKey) : String := k.pattern ++ " " ++ k.keyType ++ " " ++ k.key

theorem space_blank : Text.isBlank ' ' = true := by decide

theorem words_line {k : KnownKey} (writable : Writable k) :
    Text.words (line k).toList = [k.pattern.toList, k.keyType.toList, k.key.toList] := by
  have parts : (line k).toList = k.pattern.toList ++ ' ' :: (k.keyType.toList ++ ' ' :: k.key.toList) := by
    simp [line]
  rw [parts, Text.words_cons (fun c member => (writable.pattern_whole c member).1) (by simpa using writable.pattern_given)
      space_blank,
    Text.words_cons writable.keyType_whole (by simpa using writable.keyType_given) space_blank,
    Text.words_one writable.key_whole (by simpa using writable.key_given)]

theorem readLine_words {one other : List Char} (same : Text.words one = Text.words other) :
    readLine one = readLine other := by
  simp only [readLine, same]

theorem readLine_line {k : KnownKey} (writable : Writable k) : readLine (line k).toList = [k] := by
  have whole : ',' ∉ k.pattern.toList := fun member => (writable.pattern_whole ',' member).2.1 rfl
  have lowered : Text.lower k.pattern.toList = k.pattern.toList :=
    Text.lower_settled fun c member => (writable.pattern_whole c member).2.2
  cases spelled : k.pattern.toList with
  | nil => exact absurd (by simpa using spelled) writable.pattern_given
  | cons c rest =>
      have first : k.pattern.toList.head? = some c := by rw [spelled, List.head?_cons]
      have plain := writable.pattern_plain c first
      simp only [List.mem_cons, List.not_mem_nil, or_false, not_or] at plain
      simp [readLine, words_line writable, Text.splitOn_one ',' whole, first, plain, lowered]

-- The host can be told from the other names of a line and a line for it from a comment or a marked line, and the
-- words from one another.
structure Entry.WellFormed (e : Entry) : Prop where
  host_given : e.host ≠ ""
  host_whole : ∀ c ∈ e.host.toList, Text.isBlank c = false ∧ c ≠ ','
  host_plain : ∀ c, e.host.toList.head? = some c → c ∉ ['#', '@', '|']
  keyType_given : e.keyType ≠ ""
  keyType_whole : ∀ c ∈ e.keyType.toList, Text.isBlank c = false
  key_given : e.key ≠ ""
  key_whole : ∀ c ∈ e.key.toList, Text.isBlank c = false

def Entry.known (e : Entry) : KnownKey := ⟨hostPattern e.host e.port, e.keyType, e.key⟩

def NameChar (c : Char) : Prop := Text.isBlank c = false ∧ c ≠ ',' ∧ Text.Settled c

theorem nameChar_ascii {c : Char} (range : 0x30 ≤ c.toNat ∧ c.toNat ≤ 0x3A ∨ 0x5B ≤ c.toNat ∧ c.toNat ≤ 0x5D) :
    NameChar c := by
  refine ⟨?_, ?_, Text.settled_ascii (by omega) (by omega)⟩
  · rw [Bool.eq_false_iff]
    simp only [Text.isBlank, ne_eq, Bool.or_eq_true, Bool.and_eq_true, decide_eq_true_eq, beq_iff_eq]
    omega
  · rintro rfl
    exact absurd range (by decide)

theorem nameChar_digit {c : Char} (digit : c.isDigit = true) : NameChar c := by
  simp only [Char.isDigit, Bool.and_eq_true, decide_eq_true_eq, ge_iff_le, UInt32.le_iff_toNat_le] at digit
  exact nameChar_ascii (Or.inl ⟨digit.1, Nat.le_succ_of_le digit.2⟩)

theorem nameChar_lower {host : List Char} (whole : ∀ c ∈ host, Text.isBlank c = false ∧ c ≠ ',') :
    ∀ c ∈ Text.lower host, NameChar c := by
  intro c member
  have spared := Text.lower_spares whole (fun d lowered => ⟨lowered.no_blank, fun same => lowered.no_mark (by simp [same])⟩)
    c member
  exact ⟨spared.1, spared.2, Text.lower_stays host c member⟩

theorem hostPattern_chars (host : String) (port : Nat) :
    (hostPattern host port).toList =
      if port = 22 then Text.lower host.toList
      else '[' :: (Text.lower host.toList ++ ']' :: ':' :: Nat.toDigits 10 port) := by
  by_cases standard : port = 22
  · simp [hostPattern, standard, String.lowercase]
  · simp [hostPattern, standard, String.lowercase]

theorem hostPattern_whole {host : String} (whole : ∀ c ∈ host.toList, Text.isBlank c = false ∧ c ≠ ',') (port : Nat) :
    ∀ c ∈ (hostPattern host port).toList, NameChar c := by
  have name := nameChar_lower whole
  intro c member
  rw [hostPattern_chars] at member
  split at member
  · exact name c member
  · rcases List.mem_cons.mp member with rfl | inner
    · exact nameChar_ascii (by decide)
    · rcases List.mem_append.mp inner with host | port
      · exact name c host
      · rcases List.mem_cons.mp port with rfl | port
        · exact nameChar_ascii (by decide)
        · rcases List.mem_cons.mp port with rfl | digit
          · exact nameChar_ascii (by decide)
          · exact nameChar_digit (Nat.isDigit_of_mem_toDigits (by decide) (by decide) digit)

theorem hostPattern_head {host : String} (given : host ≠ "")
    (plain : ∀ c, host.toList.head? = some c → c ∉ ['#', '@', '|']) (port : Nat) :
    ∃ c rest, (hostPattern host port).toList = c :: rest ∧ c ∉ ['#', '@', '|'] := by
  rw [hostPattern_chars]
  split
  · cases spelled : host.toList with
    | nil => exact absurd (by simpa using spelled) given
    | cons first rest =>
        obtain ⟨c, later, lowered, becomes⟩ := Text.lower_head first rest
        refine ⟨c, later, lowered, ?_⟩
        rcases becomes with rfl | letter
        · exact plain c (by rw [spelled, List.head?_cons])
        · exact fun member => letter.no_mark (by simp only [List.mem_cons] at member ⊢; tauto)
  · exact ⟨'[', _, rfl, by decide⟩

theorem Entry.WellFormed.writable {e : Entry} (wellFormed : e.WellFormed) : Writable e.known := by
  obtain ⟨first, rest, spelled, plain⟩ := hostPattern_head wellFormed.host_given wellFormed.host_plain e.port
  have pattern : e.known.pattern.toList = first :: rest := spelled
  constructor
  case pattern_given =>
    intro empty
    rw [empty] at pattern
    cases pattern
  case pattern_whole => exact hostPattern_whole wellFormed.host_whole e.port
  case pattern_plain =>
    intro c isFirst
    rw [pattern] at isFirst
    cases isFirst
    exact plain
  case keyType_given => exact wellFormed.keyType_given
  case keyType_whole => exact wellFormed.keyType_whole
  case key_given => exact wellFormed.key_given
  case key_whole => exact wellFormed.key_whole

def plus (store : KnownHosts) (added : List KnownKey) : KnownHosts :=
  { store with keys := store.keys ++ added, pending := store.pending ++ added.map line }

theorem add_entry (store : KnownHosts) (e : Entry) :
    (store.add e.host e.port e.keyType e.key).1 = if e.known ∈ store.keys then store else store.plus [e.known] := by
  have verified := check_verified_iff store e.host e.port e.keyType e.key
  simp only [add]
  cases checked : store.check e.host e.port e.keyType e.key with
  | mk status events =>
      rw [checked] at verified
      by_cases known : status = .verified
      · have member : e.known ∈ store.keys := verified.mp known
        rw [if_pos member]
        simp [known]
      · have absent : e.known ∉ store.keys := fun member => known (verified.mpr member)
        rw [if_neg absent]
        simp [known, plus, line, Entry.known]

theorem add_cases (store : KnownHosts) (e : Entry) :
    e.known ∈ store.keys ∧ (store.add e.host e.port e.keyType e.key).1 = store ∨
      (store.add e.host e.port e.keyType e.key).1 = store.plus [e.known] := by
  rw [add_entry]
  by_cases known : e.known ∈ store.keys
  · exact Or.inl ⟨known, if_pos known⟩
  · exact Or.inr (if_neg known)

def addAll (store : KnownHosts) (entries : List Entry) : KnownHosts :=
  entries.foldl (fun store e => (store.add e.host e.port e.keyType e.key).1) store

theorem addAll_plus (store : KnownHosts) (entries : List Entry) :
    ∃ added, store.addAll entries = store.plus added ∧ (∀ k ∈ added, ∃ e ∈ entries, k = e.known) ∧
      ∀ e ∈ entries, e.known ∈ store.keys ++ added := by
  induction entries generalizing store with
  | nil => exact ⟨[], by simp [addAll, plus], by simp, by simp⟩
  | cons e rest ih =>
      have first : store.addAll (e :: rest) = (store.add e.host e.port e.keyType e.key).1.addAll rest := rfl
      rcases add_cases store e with ⟨known, same⟩ | fresh
      · obtain ⟨added, grown, origin, verified⟩ := ih store
        refine ⟨added, by rw [first, same, grown], ?_, ?_⟩
        · intro k member
          obtain ⟨other, later, made⟩ := origin k member
          exact ⟨other, List.mem_cons_of_mem _ later, made⟩
        · intro other member
          rcases List.mem_cons.mp member with rfl | later
          · exact List.mem_append_left _ known
          · exact verified other later
      · obtain ⟨added, grown, origin, verified⟩ := ih (store.plus [e.known])
        refine ⟨e.known :: added, ?_, ?_, ?_⟩
        · rw [first, fresh, grown]
          simp [plus]
        · intro k member
          rcases List.mem_cons.mp member with rfl | later
          · exact ⟨e, List.mem_cons_self, rfl⟩
          · obtain ⟨other, inside, made⟩ := origin k later
            exact ⟨other, List.mem_cons_of_mem _ inside, made⟩
        · intro other member
          rcases List.mem_cons.mp member with rfl | later
          · simp
          · simpa [plus] using verified other later

end KnownHosts
end RemoteExec

import Mathlib.Data.List.TakeWhile
import RemoteExec.Proofs.Text.ShellWords
import RemoteExec.Proxy.Command

namespace RemoteExec.Proxy

open Text.ShellWords

section Values

theorem valueAfterBlanks_begun {least : Nat} {blanks value : List Char} (blank : ∀ c ∈ blanks, Text.isBlank c = true)
    (enough : least ≤ blanks.length) (given : value ≠ []) (begun : ∀ c ∈ value.head?, Text.isBlank c = false)
    (unbroken : '\n' ∉ value) : valueAfterBlanks least (blanks ++ value) = some value := by
  have taken : (blanks ++ value).takeWhile Text.isBlank = blanks := by
    rw [List.takeWhile_append_of_pos blank]
    cases value with
    | nil => exact absurd rfl given
    | cons c rest => rw [List.takeWhile_cons, begun c rfl, if_neg Bool.false_ne_true, List.append_nil]
  have left : (blanks ++ value).dropWhile Text.isBlank = value := by
    rw [List.dropWhile_append_of_pos blank]
    cases value with
    | nil => exact absurd rfl given
    | cons c rest => rw [List.dropWhile_cons, begun c rfl, if_neg Bool.false_ne_true]
  have whole : value.takeWhile (· != '\n') = value := by
    refine List.takeWhile_eq_self_iff.mpr fun c member => ?_
    have other : c ≠ '\n' := fun same => unbroken (same ▸ member)
    simpa using other
  have inhabited : value.isEmpty = false := by simpa using given
  simp only [valueAfterBlanks, taken, left, whole, inhabited, enough, Bool.not_false, Bool.true_and, decide_true, if_true]

variable {key value : List Char}

theorem length_of_named (named : Text.sameWord key keyword = true) : key.length = keyword.length := by
  rw [Text.sameWord, beq_iff_eq] at named
  simpa using congrArg List.length named

theorem settingValue?_named (named : Text.sameWord key keyword = true) (rest : List Char) :
    settingValue? (key ++ rest) =
      ((match rest.dropWhile Text.isBlank with
        | '=' :: r => valueAfterBlanks 0 r
        | _ => none) <|> valueAfterBlanks 1 rest) := by
  have size := length_of_named named
  rw [settingValue?, ← size, List.take_left, List.drop_left]
  exact if_pos named

theorem settingValue?_assigned (named : Text.sameWord key keyword = true) (given : value ≠ [])
    (begun : ∀ c ∈ value.head?, Text.isBlank c = false) (unbroken : '\n' ∉ value) :
    settingValue? (key ++ '=' :: value) = some value := by
  have read : valueAfterBlanks 0 ([] ++ value) = some value :=
    valueAfterBlanks_begun (List.forall_mem_nil _) (Nat.zero_le _) given begun unbroken
  have left : ('=' :: value).dropWhile Text.isBlank = '=' :: value := rfl
  rw [List.nil_append] at read
  rw [settingValue?_named named, left]
  show (valueAfterBlanks 0 value <|> _) = _
  rw [read]
  rfl

theorem settingValue?_apart (named : Text.sameWord key keyword = true) (given : value ≠ [])
    (begun : ∀ c ∈ value.head?, Text.isBlank c = false) (unassigned : value.head? ≠ some '=') (unbroken : '\n' ∉ value) :
    settingValue? (key ++ ' ' :: value) = some value := by
  have blank : ∀ c ∈ [' '], Text.isBlank c = true := List.forall_mem_singleton.mpr (by decide)
  have read : valueAfterBlanks 1 ([' '] ++ value) = some value :=
    valueAfterBlanks_begun blank (Nat.le_refl _) given begun unbroken
  rw [settingValue?_named named]
  cases value with
  | nil => exact absurd rfl given
  | cons c rest =>
      have left : (' ' :: c :: rest).dropWhile Text.isBlank = c :: rest := by
        rw [List.dropWhile_cons, if_pos (blank ' ' List.mem_cons_self), List.dropWhile_cons, begun c rfl,
          if_neg Bool.false_ne_true]
      have other : c ≠ '=' := fun same => unassigned (congrArg some same)
      rw [left]
      split
      · next first => exact absurd (List.cons_eq_cons.mp first).1 other
      · exact read

theorem settingAt?_word {word : List Char} (other : ¬Text.sameWord word keyword = true) (rest : List (List Char)) :
    settingAt? (word :: rest) = (settingValue? word).map (·, rest) := by
  rw [settingAt?.eq_def]
  exact if_neg other

theorem longer_unnamed (named : Text.sameWord key keyword = true) {rest : List Char} (given : rest ≠ []) :
    ¬Text.sameWord (key ++ rest) keyword = true := by
  intro same
  have size := length_of_named same
  rw [List.length_append, length_of_named named] at size
  exact given (List.eq_nil_of_length_eq_zero (by omega))

theorem settingAt?_keyword (named : Text.sameWord key keyword = true) (rest : List (List Char)) :
    settingAt? (key :: value :: rest) = some (value, rest) := by
  rw [settingAt?, if_pos named]

end Values

section Searching

def Keyless (w : List Char) : Prop := ¬keyword <:+: w.map Text.asciiLower

instance : DecidablePred Keyless := fun w => inferInstanceAs (Decidable ¬keyword <:+: w.map Text.asciiLower)

theorem not_keyless {w key rest : List Char} (named : Text.sameWord key keyword = true) (cut : w = key ++ rest) :
    ¬Keyless w := by
  have lowered : key.map Text.asciiLower = keyword := by
    rw [Text.sameWord, beq_iff_eq] at named
    exact named
  rintro keyless
  refine keyless ?_
  rw [cut, List.map_append, lowered]
  exact (List.prefix_append _ _).isInfix

theorem settingAt?_keyless {w : List Char} (keyless : Keyless w) (rest : List (List Char)) :
    settingAt? (w :: rest) = none := by
  have other : ¬Text.sameWord w keyword = true := fun named =>
    not_keyless named (List.append_nil w).symm keyless
  have unnamed : ¬Text.sameWord (w.take keyword.length) keyword = true := fun named =>
    not_keyless named (List.take_append_drop keyword.length w).symm keyless
  have valueless : settingValue? w = none := by rw [settingValue?, if_neg unnamed]
  rw [settingAt?_word other, valueless]
  rfl

theorem findSetting_keyless {before : List (List Char)} (keyless : ∀ w ∈ before, Keyless w) (rest : List (List Char)) :
    findSetting (before ++ rest) = findSetting rest := by
  induction before with
  | nil => rfl
  | cons w before ih =>
      obtain ⟨first, others⟩ := List.forall_mem_cons.mp keyless
      rw [List.cons_append, findSetting, settingAt?_keyless first, ih others]

theorem findSetting_found {words after : List (List Char)} {value : List Char}
    (found : settingAt? words = some (value, after)) (visible : (extended value after).all Text.isBlank = false) :
    findSetting words = some (extended value after) := by
  cases words with
  | nil => cases found
  | cons w words =>
      rw [findSetting, found]
      simp only [visible]
      rfl

theorem extended_stopped (value : List Char) {others after : List (List Char)}
    (unflagged : ∀ w ∈ others, startsFlag w = false) (stopped : ∀ w ∈ after.head?, startsFlag w = true) :
    extended value (others ++ after) = [' '].intercalate (value :: others) := by
  have goes_on : ∀ w ∈ others, (!startsFlag w) = true := fun w member => by rw [unflagged w member]; rfl
  have nothing : after.takeWhile (!startsFlag ·) = [] := by
    cases after with
    | nil => rfl
    | cons w after =>
        have flag : ¬(!startsFlag w) = true := by simp [stopped w rfl]
        rw [List.takeWhile_cons, if_neg flag]
  rw [extended, List.takeWhile_append_of_pos goes_on, nothing, List.append_nil]

end Searching

theorem mem_intercalate {words : List (List Char)} {c : Char} (member : c ∈ [' '].intercalate words) :
    c = ' ' ∨ ∃ w ∈ words, c ∈ w := by
  induction words with
  | nil => exact absurd member List.not_mem_nil
  | cons w words ih =>
      cases words with
      | nil =>
          rw [List.intercalate_singleton] at member
          exact Or.inr ⟨w, List.mem_singleton_self w, member⟩
      | cons next words =>
          rw [List.intercalate_cons_cons, List.append_assoc] at member
          obtain inside | member := List.mem_append.mp member
          · exact Or.inr ⟨w, List.mem_cons_self, inside⟩
          obtain blank | later := List.mem_cons.mp member
          · exact Or.inl blank
          obtain blank | ⟨v, given, inside⟩ := ih later
          · exact Or.inl blank
          · exact Or.inr ⟨v, List.mem_cons_of_mem _ given, inside⟩

inductive Spelling where
  | assigned
  | separate
  | together
  | bareAssigned
  | bareSeparate
deriving DecidableEq

namespace Spelling

def bare : Spelling → Bool
  | .bareAssigned | .bareSeparate => true
  | .assigned | .separate | .together => false

def joined : Spelling → Bool
  | .separate | .bareSeparate => false
  | .assigned | .together | .bareAssigned => true

end Spelling

structure Setting where
  spelling : Spelling
  key : List Char
  first : List Char
  others : List (List Char)
  named : Text.sameWord key keyword = true
  plain : ∀ w ∈ first :: others, Plain w
  unassigned : first.head? ≠ some '='
  unflagged : spelling.bare = true → ∀ w ∈ others, startsFlag w = false
  begun : spelling.joined = true → ∀ c ∈ first.head?, Text.isBlank c = false
  visible : ([' '].intercalate (first :: others)).all Text.isBlank = false

namespace Setting

variable (s : Setting)

def value : List Char := [' '].intercalate (s.first :: s.others)

def texts : List (List Char) :=
  match s.spelling with
  | .assigned => ['\'' :: (s.key ++ '=' :: (s.value ++ ['\'']))]
  | .separate => [s.key, '\'' :: (s.value ++ ['\''])]
  | .together => ['"' :: (s.key ++ ' ' :: (s.value ++ ['"']))]
  | .bareAssigned => (s.key ++ '=' :: s.first) :: s.others
  | .bareSeparate => s.key :: s.first :: s.others

def words : List (List Char) :=
  match s.spelling with
  | .assigned => [s.key ++ '=' :: s.value]
  | .separate => [s.key, s.value]
  | .together => [s.key ++ ' ' :: s.value]
  | .bareAssigned => (s.key ++ '=' :: s.first) :: s.others
  | .bareSeparate => s.key :: s.first :: s.others

theorem key_inert : ∀ c ∈ s.key, Inert c ∧ c ≠ '#' := by
  intro c member
  have letter : Text.asciiLower c ∈ keyword := by
    have lowered := s.named
    rw [Text.sameWord, beq_iff_eq] at lowered
    have same : s.key.map Text.asciiLower = keyword := lowered
    rw [← same]
    exact List.mem_map_of_mem member
  have other : ∀ d : Char, Text.asciiLower d ∉ keyword → c ≠ d := fun d apart same => apart (same ▸ letter)
  refine ⟨⟨other _ (by decide), other _ (by decide), other _ (by decide), ?_⟩, other _ (by decide)⟩
  simp [isSeparator, other ' ' (by decide), other '\t' (by decide), other '\n' (by decide)]

theorem key_given : s.key ≠ [] := by
  intro nothing
  have size := length_of_named s.named
  rw [nothing] at size
  cases size

theorem key_plain : Plain s.key :=
  ⟨s.key_given, fun first => (s.key_inert '#' (List.mem_of_mem_head? first)).2 rfl, fun c member =>
    (s.key_inert c member).1⟩

theorem first_plain : Plain s.first := s.plain s.first List.mem_cons_self

theorem value_mem {c : Char} (member : c ∈ s.value) : Inert c ∨ c = ' ' := by
  obtain blank | ⟨w, given, inside⟩ := mem_intercalate member
  · exact Or.inr blank
  · exact Or.inl ((s.plain w given).inert c inside)

theorem value_head : s.value.head? = s.first.head? := by
  have given := s.first_plain.inhabited
  rw [value]
  cases s.others with
  | nil => rw [List.intercalate_singleton]
  | cons w others => rw [List.intercalate_cons_cons, List.append_assoc, List.head?_append_of_ne_nil _ given]

theorem value_begun (joined : s.spelling.joined = true) : ∀ c ∈ s.value.head?, Text.isBlank c = false := by
  rw [value_head]
  exact s.begun joined

theorem value_given : s.value ≠ [] := by
  intro nothing
  have first := s.value_head
  rw [nothing] at first
  exact s.first_plain.inhabited (List.head?_eq_none_iff.mp first.symm)

theorem value_without {c : Char} (active : ¬Inert c) (solid : c ≠ ' ') : c ∉ s.value :=
  fun member => (s.value_mem member).elim active solid

theorem line_without {c : Char} (active : ¬Inert c) (solid : c ≠ ' ') {between : Char} (apart : c ≠ between) :
    c ∉ s.key ++ between :: s.value := by
  intro member
  obtain inside | inside := List.mem_append.mp member
  · exact active (s.key_inert c inside).1
  · exact (List.mem_cons.mp inside).elim apart (s.value_without active solid)

theorem parts_exist : ∃ parts : List Part, parts.map Part.text = s.texts ∧ parts.map Part.word = s.words := by
  rw [texts, words]
  cases s.spelling with
  | assigned =>
      have quoteless : '\'' ∉ s.key ++ '=' :: s.value := s.line_without (by decide) (by decide) (by decide)
      refine ⟨[.quoted (s.key ++ '=' :: s.value)], ?_, rfl⟩
      simp [Part.text, escape_quoteless quoteless]
  | separate =>
      have quoteless : '\'' ∉ s.value := s.value_without (by decide) (by decide)
      refine ⟨[.bare s.key s.key_plain, .quoted s.value], ?_, rfl⟩
      simp [Part.text, escape_quoteless quoteless]
  | together =>
      have quiet : Quiet (s.key ++ ' ' :: s.value) := by
        intro c member
        refine ⟨?_, ?_⟩ <;> rintro rfl <;> exact s.line_without (by decide) (by decide) (by decide) member
      refine ⟨[.doubled (s.key ++ ' ' :: s.value) quiet], ?_, rfl⟩
      simp [Part.text]
  | bareAssigned =>
      have joined : Plain (s.key ++ '=' :: s.first) :=
        s.key_plain.append (List.forall_mem_cons.mpr ⟨by decide, s.first_plain.inert⟩)
      exact parts_of_plain (List.forall_mem_cons.mpr ⟨joined, (List.forall_mem_cons.mp s.plain).2⟩)
  | bareSeparate => exact parts_of_plain (List.forall_mem_cons.mpr ⟨s.key_plain, s.plain⟩)

theorem settingAt?_words (after : List (List Char)) :
    ∃ (value : List Char) (others : List (List Char)),
      settingAt? (s.words ++ after) = some (value, others ++ after) ∧ (∀ w ∈ others, startsFlag w = false) ∧
        [' '].intercalate (value :: others) = s.value := by
  have alone : [' '].intercalate [s.value] = s.value := List.intercalate_singleton
  have unbroken : '\n' ∉ s.value := s.value_without (by decide) (by decide)
  rw [words]
  cases written : s.spelling with
  | assigned =>
      have begun := s.value_begun (by rw [written]; rfl)
      refine ⟨s.value, [], ?_, List.forall_mem_nil _, alone⟩
      rw [List.singleton_append, settingAt?_word (longer_unnamed s.named (List.cons_ne_nil _ _)),
        settingValue?_assigned s.named s.value_given begun unbroken]
      rfl
  | separate => exact ⟨s.value, [], settingAt?_keyword s.named _, List.forall_mem_nil _, alone⟩
  | together =>
      have begun := s.value_begun (by rw [written]; rfl)
      have unassigned : s.value.head? ≠ some '=' := by
        rw [value_head]
        exact s.unassigned
      refine ⟨s.value, [], ?_, List.forall_mem_nil _, alone⟩
      rw [List.singleton_append, settingAt?_word (longer_unnamed s.named (List.cons_ne_nil _ _)),
        settingValue?_apart s.named s.value_given begun unassigned unbroken]
      rfl
  | bareAssigned =>
      have begun := s.begun (by rw [written]; rfl)
      have unbroken_first : '\n' ∉ s.first := fun member => absurd (s.first_plain.inert _ member) (by decide)
      refine ⟨s.first, s.others, ?_, s.unflagged (by rw [written]; rfl), rfl⟩
      rw [List.cons_append, settingAt?_word (longer_unnamed s.named (List.cons_ne_nil _ _)),
        settingValue?_assigned s.named s.first_plain.inhabited begun unbroken_first]
      rfl
  | bareSeparate => exact ⟨s.first, s.others, settingAt?_keyword s.named _, s.unflagged (by rw [written]; rfl), rfl⟩

-- What stands behind a setting and its value matters only in that it ends the value.
theorem findSetting_words {before after : List (List Char)} (keyless : ∀ w ∈ before, Keyless w)
    (stopped : ∀ w ∈ after.head?, startsFlag w = true) :
    findSetting (before ++ (s.words ++ after)) = some s.value := by
  obtain ⟨value, others, found, unflagged, whole⟩ := s.settingAt?_words after
  have goes_on : extended value (others ++ after) = s.value := (extended_stopped value unflagged stopped).trans whole
  have visible : (extended value (others ++ after)).all Text.isBlank = false := by
    rw [goes_on]
    exact s.visible
  rw [findSetting_keyless keyless, findSetting_found found visible, goes_on]

end Setting

section Resolving

variable {o : Options}

def joinedArguments (o : Options) : List Char := (" ".intercalate (arguments o)).toList

theorem joined_spaced {extra common last : List (List Char)} (first : Spaced extra (o.sshExtraArgs.getD "").toList)
    (second : Spaced common (o.sshCommonArgs.getD "").toList) (third : Spaced last (o.sshArgs.getD "").toList) :
    Spaced (extra ++ (common ++ last)) (joinedArguments o) := by
  have whole : joinedArguments o =
      (o.sshExtraArgs.getD "").toList ++ ' ' :: ((o.sshCommonArgs.getD "").toList ++ ' ' :: (o.sshArgs.getD "").toList) := by
    rw [joinedArguments, String.toList_intercalate, arguments]
    simp [List.intercalate_cons_cons]
  rw [whole]
  exact first.append rfl (second.append rfl third)

def settingIn (o : Options) : Option String := ((split (joinedArguments o)).bind findSetting).map String.ofList

theorem findInArguments_joined (o : Options) : (findInArguments (" ".intercalate (arguments o))).1 = settingIn o := by
  rw [findInArguments, settingIn, joinedArguments]
  cases split (" ".intercalate (arguments o)).toList <;> rfl

theorem settingIn_unset (unset : ∀ a ∈ arguments o, a = "") : settingIn o = none := by
  have extra := unset (o.sshExtraArgs.getD "") (by simp [arguments])
  have common := unset (o.sshCommonArgs.getD "") (by simp [arguments])
  have last := unset (o.sshArgs.getD "") (by simp [arguments])
  rw [settingIn, joinedArguments, arguments, extra, common, last]
  rfl

theorem resolve_setting (o : Options) (route : Route) :
    (resolve o route).1 = ((settingIn o <|> o.proxyCommand).filter (!·.isEmpty)).map (substitute · route) := by
  have found : ∃ events, (if (arguments o).any (!·.isEmpty) then findInArguments (" ".intercalate (arguments o))
      else (none, [])) = (settingIn o, events) := by
    by_cases old : (arguments o).any (!·.isEmpty) = true
    · exact ⟨(findInArguments (" ".intercalate (arguments o))).2, by rw [if_pos old, ← findInArguments_joined]⟩
    · exact ⟨[], by rw [if_neg old, settingIn_unset (by simpa using old)]⟩
  obtain ⟨events, found⟩ := found
  rw [resolve]
  simp only [found]
  cases (settingIn o <|> o.proxyCommand).filter (!·.isEmpty) <;> rfl

theorem settingIn_keyless (keyless : ∀ words, split (joinedArguments o) = some words → ∀ w ∈ words, Keyless w) :
    settingIn o = none := by
  rw [settingIn]
  cases read : split (joinedArguments o) with
  | none => rfl
  | some words =>
      have nothing := findSetting_keyless (keyless words read) []
      rw [List.append_nil] at nothing
      rw [Option.bind_some, nothing]
      rfl

theorem settingIn_spelled (s : Setting) {before after : List Part}
    (spaced : Spaced (before.map Part.text ++ "-o".toList :: (s.texts ++ after.map Part.text)) (joinedArguments o))
    (keyless : ∀ p ∈ before, Keyless p.word) (stopped : ∀ p ∈ after.head?, startsFlag p.word = true) :
    settingIn o = some (String.ofList s.value) := by
  obtain ⟨parts, texts, read⟩ := s.parts_exist
  have whole : (before ++ .bare "-o".toList (by decide) :: (parts ++ after)).map Part.text =
      before.map Part.text ++ "-o".toList :: (s.texts ++ after.map Part.text) := by
    rw [List.map_append, List.map_cons, List.map_append, texts]
    rfl
  have words : (before ++ .bare "-o".toList (by decide) :: (parts ++ after)).map Part.word =
      (before.map Part.word ++ ["-o".toList]) ++ (s.words ++ after.map Part.word) := by
    rw [List.map_append, List.map_cons, List.map_append, read, List.append_assoc]
    rfl
  have keyless_words : ∀ w ∈ before.map Part.word ++ ["-o".toList], Keyless w := by
    refine List.forall_mem_append.mpr ⟨List.forall_mem_map.mpr keyless, ?_⟩
    decide
  have stopped_words : ∀ w ∈ (after.map Part.word).head?, startsFlag w = true := by
    rw [List.head?_map]
    intro w member
    obtain ⟨p, first, rfl⟩ := Option.map_eq_some_iff.mp member
    exact stopped p first
  rw [← whole] at spaced
  rw [settingIn, split_spaced spaced, words, Option.bind_some, s.findSetting_words keyless_words stopped_words]
  rfl

theorem resolve_spelled (o : Options) (route : Route) :
    (∀ (s : Setting) (before after : List Part) (extra common last : List (List Char)),
      Spaced extra (o.sshExtraArgs.getD "").toList → Spaced common (o.sshCommonArgs.getD "").toList →
      Spaced last (o.sshArgs.getD "").toList →
      extra ++ (common ++ last) = before.map Part.text ++ "-o".toList :: (s.texts ++ after.map Part.text) →
      (∀ p ∈ before, Keyless p.word) → (∀ p ∈ after.head?, startsFlag p.word = true) →
      (resolve o route).1 = some (substitute (String.ofList s.value) route)) ∧
    ((∀ words, split (joinedArguments o) = some words → ∀ w ∈ words, Keyless w) →
      (resolve o route).1 =
        (resolve { o with sshExtraArgs := none, sshCommonArgs := none, sshArgs := none } route).1) := by
  constructor
  · intro s before after extra common last first second third cut keyless stopped
    have spaced := joined_spaced first second third
    rw [cut] at spaced
    have shown : (!(String.ofList s.value).isEmpty) = true := by simpa using s.value_given
    have kept : ((some (String.ofList s.value) <|> o.proxyCommand).filter (!·.isEmpty)) = some (String.ofList s.value) :=
      if_pos shown
    rw [resolve_setting, settingIn_spelled s spaced keyless stopped, kept]
    rfl
  · intro keyless
    have unset : ∀ a ∈ ["", "", ""], a = "" := by decide
    have cleared : settingIn { o with sshExtraArgs := none, sshCommonArgs := none, sshArgs := none } = none :=
      settingIn_unset unset
    rw [resolve_setting, resolve_setting, settingIn_keyless keyless, cleared]

theorem resolve_first_setting :
    (resolve { Options.ofAddr "web01" with
        sshExtraArgs := some "-v -o 'proxyCommand=nc %h %p'", sshArgs := some "-o ProxyCommand=late" }
      ⟨"web01", 22, "bob"⟩).1 = some "nc web01 22" ∧
    (resolve { Options.ofAddr "web01" with sshArgs := some "-o 'open", proxyCommand := some "relay %r" }
      ⟨"web01", 22, "bob"⟩).1 = some "relay bob" := by
  have spaced : ∀ parts : List (List Char), ∀ text : String, [' '].intercalate parts = text.toList →
      Spaced parts text.toList := fun parts text same => same ▸ Spaced.intercalate parts
  let s : Setting :=
    { spelling := .assigned, key := "proxyCommand".toList, first := "nc".toList, others := ["%h".toList, "%p".toList]
      named := by decide, plain := by decide, unassigned := by decide, unflagged := by decide
      begun := fun _ c first => (Option.some.inj first : 'n' = c) ▸ by decide
      visible := by decide }
  have first := (resolve_spelled { Options.ofAddr "web01" with
      sshExtraArgs := some "-v -o 'proxyCommand=nc %h %p'", sshArgs := some "-o ProxyCommand=late" }
      ⟨"web01", 22, "bob"⟩).1 s [.bare "-v".toList (by decide)]
    [.bare "-o".toList (by decide), .bare "ProxyCommand=late".toList (by decide)]
    ["-v".toList, "-o".toList, "'proxyCommand=nc %h %p'".toList] [] ["-o".toList, "ProxyCommand=late".toList]
    (spaced _ _ (by decide)) .empty (spaced _ _ (by decide)) (by decide) (by decide) (by decide)
  have second := (resolve_spelled { Options.ofAddr "web01" with
      sshArgs := some "-o 'open", proxyCommand := some "relay %r" } ⟨"web01", 22, "bob"⟩).2 (by decide)
  exact ⟨first.trans (by decide), second.trans (by decide)⟩

-- The blank is no separator, so the value begins with it; where the value stands in the word of the keyword, blanks
-- before it are left out.
theorem leading_blank_lost :
    Plain "\u00A0nc".toList ∧ "\u00A0nc".toList.head? ≠ some '=' ∧ "\u00A0nc".toList.head? ≠ some '-' ∧
      (resolve { Options.ofAddr "h" with sshArgs := some "-o 'ProxyCommand=\u00A0nc'" } ⟨"h", 22, "u"⟩).1 = some "nc" ∧
      (resolve { Options.ofAddr "h" with sshArgs := some "-o 'ProxyCommand=\u00A0nc'" } ⟨"h", 22, "u"⟩).1 ≠
        some (substitute "\u00A0nc" ⟨"h", 22, "u"⟩) := by decide +kernel

end Resolving

end RemoteExec.Proxy

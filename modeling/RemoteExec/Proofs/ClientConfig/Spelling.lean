import Mathlib.Data.List.Basic
import RemoteExec.Proofs.ClientConfig.Precedence
import RemoteExec.Proofs.Text.Lowercase

namespace RemoteExec.ClientConfig

section Directives

-- What stands between a keyword and its value: blanks, or one `=` with or without blanks around it.
inductive Separates : List Char → Prop where
  | apart {blanks : List Char} (given : blanks ≠ []) (blank : ∀ c ∈ blanks, Text.isBlank c = true) : Separates blanks
  | assigned {before after : List Char} (blank : ∀ c ∈ before, Text.isBlank c = true)
    (also : ∀ c ∈ after, Text.isBlank c = true) : Separates (before ++ '=' :: after)

structure IsKeyword (key : List Char) : Prop where
  given : key ≠ []
  unbroken : ∀ c ∈ key, Text.isBlank c = false ∧ c ≠ '='
  uncommented : key.head? ≠ some '#'

structure IsValue (value : List Char) : Prop where
  given : value ≠ []
  tight : Text.Tight value
  unassigned : value.head? ≠ some '='
  unquoted : ∀ inner, value ≠ '"' :: (inner ++ ['"'])

def endsKeyword (c : Char) : Bool := Text.isBlank c || c == '='

theorem isKeyword_iff (key : List Char) :
    (!key.isEmpty && key.all (!endsKeyword ·) && key.head? != some '#') = true ↔ IsKeyword key := by
  have read : (!key.isEmpty && key.all (!endsKeyword ·) && key.head? != some '#') = true ↔
      (key ≠ [] ∧ ∀ c ∈ key, Text.isBlank c = false ∧ c ≠ '=') ∧ key.head? ≠ some '#' := by simp [endsKeyword]
  rw [read]
  constructor
  · intro reads
    obtain ⟨⟨given, unbroken⟩, uncommented⟩ := reads
    exact ⟨given, unbroken, uncommented⟩
  · intro isKey
    exact ⟨⟨isKey.given, isKey.unbroken⟩, isKey.uncommented⟩

instance (key : List Char) : Decidable (IsKeyword key) := decidable_of_iff _ (isKeyword_iff key)

theorem unquoted_iff (value : List Char) :
    (∀ inner, value ≠ '"' :: (inner ++ ['"'])) ↔ value ≠ '"' :: (value.tail.dropLast ++ ['"']) := by
  constructor
  · intro unquoted
    exact unquoted _
  · intro differs inner quoted
    rw [quoted, List.tail_cons, List.dropLast_concat] at differs
    exact differs rfl

instance (value : List Char) : Decidable (IsValue value) :=
  decidable_of_iff (value ≠ [] ∧ Text.Tight value ∧ value.head? ≠ some '=' ∧
      value ≠ '"' :: (value.tail.dropLast ++ ['"']))
    ⟨fun ⟨given, tight, unassigned, unquoted⟩ => ⟨given, tight, unassigned, (unquoted_iff value).mpr unquoted⟩,
      fun isValue => ⟨isValue.given, isValue.tight, isValue.unassigned, (unquoted_iff value).mp isValue.unquoted⟩⟩

def enclosed (quotes : Bool) (value : List Char) : List Char := if quotes then '"' :: (value ++ ['"']) else value

structure Spelling where
  indent : List Char
  separator : List Char
  quotes : Bool
  trailing : List Char
  indented : ∀ c ∈ indent, Text.isBlank c = true
  separates : Separates separator
  trailed : ∀ c ∈ trailing, Text.isBlank c = true

def Spelling.line (s : Spelling) (key value : List Char) : List Char :=
  s.indent ++ (key ++ (s.separator ++ enclosed s.quotes value) ++ s.trailing)

variable {key value separator : List Char}

theorem Separates.begins (separates : Separates separator) :
    ∃ c rest, separator = c :: rest ∧ endsKeyword c = true := by
  cases separates with
  | apart given blank =>
      obtain ⟨c, rest, same⟩ := List.exists_cons_of_ne_nil given
      refine ⟨c, rest, same, ?_⟩
      rw [endsKeyword, blank c (by simp [same]), Bool.true_or]
  | @assigned before after blank _ =>
      cases before with
      | nil => exact ⟨'=', after, rfl, rfl⟩
      | cons c rest =>
          refine ⟨c, rest ++ '=' :: after, rfl, ?_⟩
          rw [endsKeyword, blank c List.mem_cons_self, Bool.true_or]

theorem keyword_taken (isKey : IsKeyword key) (separates : Separates separator) (rest : List Char) :
    (key ++ (separator ++ rest)).takeWhile (!endsKeyword ·) = key ∧
      (key ++ (separator ++ rest)).dropWhile (!endsKeyword ·) = separator ++ rest := by
  have goes_on : ∀ c ∈ key, (!endsKeyword c) = true := by
    intro c member
    obtain ⟨visible, other⟩ := isKey.unbroken c member
    simp [endsKeyword, visible, other]
  obtain ⟨c, more, same, ends⟩ := separates.begins
  rw [List.takeWhile_append_of_pos goes_on, List.dropWhile_append_of_pos goes_on, same]
  simp [ends]

-- With or without quotes around it, a value begins and ends visibly and does not begin as a separator goes on.
structure Visible (written : List Char) : Prop where
  given : written ≠ []
  tight : Text.Tight written
  unassigned : written.head? ≠ some '='

theorem IsValue.visible (isValue : IsValue value) (quotes : Bool) : Visible (enclosed quotes value) := by
  cases quotes with
  | false => exact ⟨isValue.given, isValue.tight, isValue.unassigned⟩
  | true =>
      constructor
      case given => simp [enclosed]
      case unassigned => simp [enclosed]
      case tight =>
        constructor
        case begun =>
          intro c first
          cases first
          rfl
        case ended =>
          intro c last
          have quote : (enclosed true value).getLast? = some '"' := by
            rw [enclosed, if_pos rfl, ← List.cons_append, List.getLast?_concat]
          rw [quote] at last
          cases last
          rfl

theorem unquoted_enclosed (isValue : IsValue value) (quotes : Bool) : unquoted (enclosed quotes value) = value := by
  cases quotes with
  | true => simp [enclosed, unquoted]
  | false =>
      rw [enclosed, if_neg Bool.false_ne_true]
      unfold unquoted
      split
      next inner =>
        split
        next kept last =>
          have inner_quoted : inner = kept.reverse ++ ['"'] := by
            rw [← List.reverse_reverse inner, last, List.reverse_cons]
          exact absurd (congrArg ('"' :: ·) inner_quoted) (isValue.unquoted kept.reverse)
        next => rfl
      next => rfl

theorem dropWhile_unassigned {s : List Char} (unassigned : s.head? ≠ some '=') : s.dropWhile (· == '=') = s := by
  cases s with
  | nil => rfl
  | cons c rest =>
      have other : ¬(c == '=') = true := by
        intro same
        exact unassigned (congrArg some (beq_iff_eq.mp same))
      rw [List.dropWhile_cons, if_neg other]

theorem separator_skipped {written : List Char} (separates : Separates separator) (visible : Visible written) :
    Text.trim ((Text.trimLeft (separator ++ written)).dropWhile (· == '=')) = written := by
  cases separates with
  | apart given blank =>
      have begun : Text.trimLeft (separator ++ written) = written := by
        rw [Text.trimLeft, List.dropWhile_append_of_pos blank]
        exact Text.trimLeft_begun visible.tight.begun
      rw [begun, dropWhile_unassigned visible.unassigned, Text.trim_tight visible.tight]
  | @assigned before after blank also =>
      have begun : Text.trimLeft (before ++ '=' :: after ++ written) = '=' :: (after ++ written) := by
        rw [List.append_assoc, List.cons_append, Text.trimLeft, List.dropWhile_append_of_pos blank]
        rfl
      have unassigned : (after ++ written).head? ≠ some '=' := by
        cases after with
        | nil => exact visible.unassigned
        | cons c rest =>
            intro first
            have same : c = '=' := Option.some.inj first
            have blank_sign := also c List.mem_cons_self
            rw [same] at blank_sign
            cases blank_sign
      have around := Text.trim_around also (List.forall_mem_nil _) written
      rw [List.append_nil] at around
      rw [begun, List.dropWhile_cons, if_pos (beq_self_eq_true '='), dropWhile_unassigned unassigned, around,
        Text.trim_tight visible.tight]

theorem splitDirective_spelled (isKey : IsKeyword key) (isValue : IsValue value) (separates : Separates separator)
    (quotes : Bool) : splitDirective (key ++ (separator ++ enclosed quotes value)) = some (key, value) := by
  obtain ⟨taken, left⟩ := keyword_taken isKey separates (enclosed quotes value)
  obtain ⟨c, more, same, _⟩ := separates.begins
  have read := separator_skipped separates (isValue.visible quotes)
  have nonempty : (separator ++ enclosed quotes value).isEmpty = false := by simp [same]
  have keyed : key.isEmpty = false := by simpa using isKey.given
  have valued : value.isEmpty = false := by simpa using isValue.given
  unfold endsKeyword at taken left
  simp only [splitDirective, taken, left, read, unquoted_enclosed isValue, nonempty, keyed, valued, Bool.or_self,
    Bool.false_eq_true, if_false]

theorem tight_spelled (isKey : IsKeyword key) (isValue : IsValue value) (quotes : Bool) :
    Text.Tight (key ++ (separator ++ enclosed quotes value)) := by
  constructor
  case begun =>
    intro c first
    rw [List.head?_append_of_ne_nil _ isKey.given] at first
    exact (isKey.unbroken c (List.mem_of_head? first)).1
  case ended =>
    intro c last
    have visible := isValue.visible quotes
    rw [← List.append_assoc, List.getLast?_append_of_ne_nil _ visible.given] at last
    exact visible.tight.ended c last

theorem stated_spelled (s : Spelling) (isKey : IsKeyword key) (isValue : IsValue value) :
    stated (s.line key value) = some (key, value) := by
  have trimmed : Text.trim (s.line key value) = key ++ (s.separator ++ enclosed s.quotes value) := by
    rw [Spelling.line, Text.trim_around s.indented s.trailed, Text.trim_tight (tight_spelled isKey isValue s.quotes)]
  have uncommented : ¬((key ++ (s.separator ++ enclosed s.quotes value)).head? == some '#') = true := by
    rw [List.head?_append_of_ne_nil _ isKey.given, beq_iff_eq]
    exact isKey.uncommented
  rw [stated, trimmed, if_neg uncommented, splitDirective_spelled isKey isValue s.separates]

end Directives

section Files

inductive Silent : List Char → Prop where
  | blank {line : List Char} (blank : ∀ c ∈ line, Text.isBlank c = true) : Silent line
  | comment {indent : List Char} (indented : ∀ c ∈ indent, Text.isBlank c = true) (rest : List Char) :
    Silent (indent ++ '#' :: rest)

inductive SameLine : List Char → List Char → Prop where
  | moved {indent margin trailing tail : List Char} (line : List Char) (indented : ∀ c ∈ indent, Text.isBlank c = true)
    (trailed : ∀ c ∈ trailing, Text.isBlank c = true) (set_in : ∀ c ∈ margin, Text.isBlank c = true)
    (ended : ∀ c ∈ tail, Text.isBlank c = true) :
    SameLine (indent ++ (line ++ trailing)) (margin ++ (line ++ tail))
  | respelled {key other value : List Char} (s t : Spelling) (isKey : IsKeyword key) (alsoKey : IsKeyword other)
    (isValue : IsValue value) (named : Text.sameWord key other = true) : SameLine (s.line key value) (t.line other value)

inductive SameLines : List (List Char) → List (List Char) → Prop where
  | nothing : SameLines [] []
  | left {line : List Char} {above below : List (List Char)} (silent : Silent line) (rest : SameLines above below) :
    SameLines (line :: above) below
  | right {line : List Char} {above below : List (List Char)} (silent : Silent line) (rest : SameLines above below) :
    SameLines above (line :: below)
  | both {line other : List Char} {above below : List (List Char)} (same : SameLine line other)
    (rest : SameLines above below) : SameLines (line :: above) (other :: below)

def Respelled (one other : String) : Prop :=
  ∃ above below, Text.Laid above one.toList ∧ Text.Laid below other.toList ∧ SameLines above below

variable {line other : List Char}

theorem stated_silent (silent : Silent line) : stated line = none := by
  cases silent with
  | blank blank =>
      have empty := Text.trim_around blank (List.forall_mem_nil _) []
      rw [List.append_nil, List.append_nil] at empty
      rw [stated_trimmed empty]
      rfl
  | @comment indent indented rest =>
      have same := Text.trim_around indented (List.forall_mem_nil _) ('#' :: rest)
      rw [List.append_nil] at same
      have begun : (Text.trim ('#' :: rest)).head? = some '#' := by
        have visible : ('#' :: rest).dropWhile Text.isBlank = '#' :: rest := rfl
        rw [Text.trim, Text.trimLeft, visible, Text.trimRight, List.reverse_cons, List.dropWhile_append]
        split
        · rfl
        · simp
      rw [stated_trimmed same, stated, begun]
      rfl

theorem readLine_trimmed (same : Text.trim line = Text.trim other) (blocks : List HostBlock) :
    readLine blocks line = readLine blocks other := by
  rw [readLine, readLine, same]

theorem SameLine.read (same : SameLine line other) (b : HostBlock) (older : List HostBlock) :
    readLine (b :: older) line = readLine (b :: older) other := by
  cases same with
  | moved line indented trailed set_in ended =>
      refine readLine_trimmed ?_ _
      rw [Text.trim_around indented trailed, Text.trim_around set_in ended]
  | @respelled key other value s t isKey alsoKey isValue named =>
      have heading : Text.sameWord key "host".toList = Text.sameWord other "host".toList := by
        rw [Text.sameWord, Text.sameWord, beq_iff_eq.mp named]
      rw [readLine_stated (stated_spelled s isKey isValue), readLine_stated (stated_spelled t alsoKey isValue), heading,
        Text.lower_sameWord named]

theorem readLine_inhabited (b : HostBlock) (older : List HostBlock) (line : List Char) :
    ∃ newest before, readLine (b :: older) line = newest :: before := by
  cases said : stated line with
  | none => exact ⟨b, older, readLine_silent said _⟩
  | some stating =>
      rw [readLine_stated said]
      split
      · exact ⟨_, _, rfl⟩
      · exact ⟨_, _, rfl⟩

theorem SameLines.read {above below : List (List Char)} (same : SameLines above below) (b : HostBlock)
    (older : List HostBlock) : above.foldl readLine (b :: older) = below.foldl readLine (b :: older) := by
  induction same generalizing b older with
  | nothing => rfl
  | left silent _ ih => rw [List.foldl_cons, readLine_silent (stated_silent silent), ih]
  | right silent _ ih => rw [List.foldl_cons, readLine_silent (stated_silent silent), ih]
  | both line _ ih =>
      rw [List.foldl_cons, List.foldl_cons, line.read b older]
      obtain ⟨newest, before, read⟩ := readLine_inhabited b older _
      rw [read]
      exact ih newest before

theorem foldl_trimmed {above below : List (List Char)} (same : above.map Text.trim = below.map Text.trim)
    (blocks : List HostBlock) : above.foldl readLine blocks = below.foldl readLine blocks := by
  induction above generalizing below blocks with
  | nil =>
      rw [List.map_nil] at same
      rw [List.map_eq_nil_iff.mp same.symm]
  | cons line above ih =>
      cases below with
      | nil => cases same
      | cons other below =>
          obtain ⟨first, rest⟩ := List.cons_eq_cons.mp same
          rw [List.foldl_cons, List.foldl_cons, readLine_trimmed first, ih rest]

theorem parse_respelled {one other : String} (same : Respelled one other) : parse one = parse other := by
  obtain ⟨above, below, laid, also, lines⟩ := same
  rw [parse, parse, ofLines, ofLines, foldl_trimmed laid.trimmed, foldl_trimmed also.trimmed, lines.read]

theorem spelling_unseen :
    (∀ (s : Spelling) key value, IsKeyword key → IsValue value → ∀ b older,
      readLine (b :: older) (s.line key value) =
        if Text.sameWord key "host".toList then ⟨Text.words value, []⟩ :: b :: older
        else ⟨b.patterns, b.directives ++ [(Text.lower key, value)]⟩ :: older) ∧
    ∀ one other, Respelled one other → ∀ env host, resolve env (parse one) host = resolve env (parse other) host := by
  constructor
  · intro s key value isKey isValue b older
    exact readLine_stated (stated_spelled s isKey isValue) b older
  · intro one other same env host
    rw [parse_respelled same]

namespace Database

def joined : Spelling where
  indent := [' ', ' ']
  separator := ['=']
  quotes := false
  trailing := []
  indented := List.forall_mem_cons.mpr ⟨rfl, List.forall_mem_singleton.mpr rfl⟩
  separates := Separates.assigned (List.forall_mem_nil _) (List.forall_mem_nil _)
  trailed := List.forall_mem_nil _

def spread : Spelling where
  indent := []
  separator := [' ', '=', '\t']
  quotes := true
  trailing := ['\t']
  indented := List.forall_mem_nil _
  separates := Separates.assigned (List.forall_mem_singleton.mpr rfl) (List.forall_mem_singleton.mpr rfl)
  trailed := List.forall_mem_singleton.mpr rfl

def apart : Spelling where
  indent := []
  separator := [' ']
  quotes := false
  trailing := []
  indented := List.forall_mem_nil _
  separates := Separates.apart (List.cons_ne_nil _ _) (List.forall_mem_singleton.mpr rfl)
  trailed := List.forall_mem_nil _

def plain : String := "Host db test\n# port\n  Port=5022"

def ornate : String := "\nHOST =\t\"db test\"\t\r\nport 5022\n"

theorem plain_ornate : Respelled plain ornate := by
  have host : SameLine (apart.line "Host".toList "db test".toList) (spread.line "HOST".toList "db test".toList) :=
    SameLine.respelled apart spread (by decide) (by decide) (by decide) (by decide)
  have port : SameLine (joined.line "Port".toList "5022".toList) (apart.line "port".toList "5022".toList) :=
    SameLine.respelled joined apart (by decide) (by decide) (by decide) (by decide)
  have note : Silent "# port".toList := Silent.comment (List.forall_mem_nil _) " port".toList
  have blank : Silent [] := Silent.blank (List.forall_mem_nil _)
  refine ⟨_, _, ?_, ?_, SameLines.right blank (SameLines.both host (SameLines.left note
    (SameLines.both port SameLines.nothing)))⟩
  · exact Text.Laid.lf (by decide +kernel) (Text.Laid.lf (by decide +kernel)
      (Text.Laid.last (by decide +kernel) (by decide +kernel)))
  · exact Text.Laid.lf (by decide +kernel) (Text.Laid.crlf (by decide +kernel)
      (Text.Laid.lf (by decide +kernel) Text.Laid.nothing))

theorem database_read_alike :
    IsKeyword "HOST".toList ∧ IsValue "db test".toList ∧
    readLine [⟨[['*']], []⟩] (spread.line "HOST".toList "db test".toList) =
      [⟨["db".toList, "test".toList], []⟩, ⟨[['*']], []⟩] ∧
    Respelled plain ornate ∧ resolve ⟨[]⟩ (parse plain) "db" = resolve ⟨[]⟩ (parse ornate) "db" := by
  obtain ⟨states, settles⟩ := spelling_unseen
  have isKey : IsKeyword "HOST".toList := by decide
  have isValue : IsValue "db test".toList := by decide
  have read := states spread _ _ isKey isValue ⟨[['*']], []⟩ []
  rw [if_pos (by decide +kernel)] at read
  exact ⟨isKey, isValue, read, plain_ornate, settles plain ornate plain_ornate ⟨[]⟩ "db"⟩

end Database

end Files
end RemoteExec.ClientConfig

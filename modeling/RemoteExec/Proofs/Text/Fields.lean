import RemoteExec.Proofs.Text.Lines

namespace RemoteExec.Text

section Pieces

variable {sep : Char} {s piece : List Char} {pieces : List (List Char)}

theorem splitOn_eq (sep : Char) (s : List Char) : splitOn sep s = s.splitOn sep := by
  have read : ∀ done : List (List Char) × List Char,
      ((s.foldl (fieldStep sep) done).2.reverse :: (s.foldl (fieldStep sep) done).1).reverse =
        done.1.reverse ++ s.splitOnPPrepend (· == sep) done.2 := by
    induction s with
    | nil => simp
    | cons c rest ih =>
        intro done
        rw [List.foldl_cons, ih, List.splitOnPPrepend_cons_eq_if, fieldStep]
        by_cases cut : (c == sep) = true
        · simp [cut]
        · simp [cut]
  exact read ([], [])

theorem splitOn_clean (sep : Char) (s : List Char) : ∀ piece ∈ splitOn sep s, sep ∉ piece := by
  have clean : ∀ done : List (List Char) × List Char, (∀ piece ∈ done.1, sep ∉ piece) → sep ∉ done.2 →
      (∀ piece ∈ (s.foldl (fieldStep sep) done).1, sep ∉ piece) ∧ sep ∉ (s.foldl (fieldStep sep) done).2 := by
    induction s with
    | nil => exact fun _ before now => ⟨before, now⟩
    | cons c rest ih =>
        intro done before now
        rw [List.foldl_cons]
        by_cases cut : (c == sep) = true
        · apply ih
          · simpa [fieldStep, cut] using And.intro now before
          · simp [fieldStep, cut]
        · apply ih
          · simpa [fieldStep, cut] using before
          · have other : sep ≠ c := fun same => cut (by rw [same, beq_self_eq_true])
            simpa [fieldStep, cut] using And.intro other now
  obtain ⟨earlier, last⟩ := clean ([], []) (by simp) (by simp)
  intro piece member
  rw [splitOn_foldl, List.mem_reverse, List.mem_cons] at member
  cases member with
  | inl same =>
      rw [same, List.mem_reverse]
      exact last
  | inr inside => exact earlier piece inside

theorem splitOn_eq_iff :
    splitOn sep s = pieces ↔ pieces ≠ [] ∧ (∀ piece ∈ pieces, sep ∉ piece) ∧ [sep].intercalate pieces = s := by
  constructor
  · intro cut
    have given : splitOn sep s ≠ [] := by
      rw [splitOn_foldl]
      simp
    rw [← cut]
    exact ⟨given, splitOn_clean sep s, by rw [splitOn_eq, List.intercalate_splitOn]⟩
  · intro joined
    obtain ⟨given, clean, whole⟩ := joined
    rw [splitOn_eq, ← whole, List.splitOn_intercalate sep clean given]

theorem mem_intercalate (member : piece ∈ pieces) :
    ∃ before after, [sep].intercalate pieces = before ++ (piece ++ after) ∧ (∀ c ∈ before.getLast?, c = sep) ∧
      ∀ c ∈ after.head?, c = sep := by
  induction pieces with
  | nil => cases member
  | cons first rest ih =>
      cases rest with
      | nil =>
          obtain rfl := List.mem_singleton.mp member
          exact ⟨[], [], by simp, by simp, by simp⟩
      | cons second more =>
          rw [List.intercalate_cons_of_ne_nil (List.cons_ne_nil _ _)]
          obtain rfl | later := List.mem_cons.mp member
          · exact ⟨[], _, List.append_assoc _ _ _, by simp, by simp⟩
          · obtain ⟨before, after, whole, preceded, followed⟩ := ih later
            refine ⟨first ++ [sep] ++ before, after, by rw [whole, List.append_assoc _ before], ?_, followed⟩
            intro c last
            rw [List.getLast?_append, Option.mem_def, Option.or_eq_some_iff] at last
            obtain last | ⟨-, last⟩ := last
            · exact preceded c last
            · simpa using last.symm

theorem mem_splitOn_iff :
    piece ∈ splitOn sep s ↔ sep ∉ piece ∧ ∃ before after, s = before ++ (piece ++ after) ∧
      (∀ c ∈ before.getLast?, c = sep) ∧ ∀ c ∈ after.head?, c = sep := by
  constructor
  · intro member
    obtain ⟨-, clean, whole⟩ := splitOn_eq_iff.mp (rfl : splitOn sep s = _)
    have between := @mem_intercalate sep piece _ member
    rw [whole] at between
    exact ⟨clean piece member, between⟩
  · rintro ⟨clean, before, after, rfl, preceded, followed⟩
    have here : piece ∈ (piece ++ after).splitOn sep := by
      cases after with
      | nil => simp [List.splitOn_eq_singleton, clean]
      | cons c rest =>
          obtain rfl := followed c rfl
          rw [List.splitOn_append_cons_self_of_not_mem clean]
          exact List.mem_cons_self
    rw [splitOn_eq]
    cases before using List.reverseRecOn with
    | nil => exact here
    | append_singleton front c =>
        obtain rfl := preceded c List.getLast?_concat
        rw [List.append_assoc, List.singleton_append, List.splitOn_append_cons_self]
        exact List.mem_append_right _ here

end Pieces

section Starts

def Stops (rest : List Char) : Prop := ∀ c, rest.head? = some c → isBlank c = true

-- The line starts with these fields: blanks may stand before each of them, and where one ends the line ends or a blank
-- stands. What comes after them does not matter.
inductive Starts : List (List Char) → List Char → Prop
  | nothing (rest : List Char) : Starts [] rest
  | field {blanks field rest : List Char} {fields : List (List Char)} (gap : ∀ c ∈ blanks, isBlank c = true)
      (given : field ≠ []) (unbroken : ∀ c ∈ field, isBlank c = false) (stops : Stops rest) (later : Starts fields rest) :
      Starts (field :: fields) (blanks ++ (field ++ rest))

variable {line : List Char} {fields : List (List Char)}

theorem Starts.given {field : List Char} (starts : Starts (field :: fields) line) : field ≠ [] := by
  cases starts with
  | field gap given unbroken stops later => exact given

theorem words_field {blanks field rest : List Char} (gap : ∀ c ∈ blanks, isBlank c = true) (given : field ≠ [])
    (unbroken : ∀ c ∈ field, isBlank c = false) (stops : Stops rest) :
    words (blanks ++ (field ++ rest)) = field :: words rest := by
  rw [words_blanks gap]
  cases rest with
  | nil =>
      rw [List.append_nil, words_one unbroken given]
      rfl
  | cons c later =>
      have blank : isBlank c = true := stops c rfl
      have skipped := words_blanks (s := [c]) (fun d member => by rw [List.mem_singleton.mp member, blank]) later
      rw [words_cons unbroken given blank, ← skipped, List.singleton_append]

theorem field_exists (line : List Char) :
    (∀ c ∈ line, isBlank c = true) ∨ ∃ blanks field rest, line = blanks ++ (field ++ rest) ∧
      (∀ c ∈ blanks, isBlank c = true) ∧ field ≠ [] ∧ (∀ c ∈ field, isBlank c = false) ∧ Stops rest := by
  cases begun : line.dropWhile isBlank with
  | nil =>
      left
      exact List.dropWhile_eq_nil_iff.mp begun
  | cons first more =>
      right
      have plain : isBlank first = false := by
        have head := List.head?_dropWhile_not isBlank line
        simpa [begun] using head
      have stops : Stops ((first :: more).dropWhile fun c => !isBlank c) := by
        intro c next
        have head := List.head?_dropWhile_not (fun c => !isBlank c) (first :: more)
        simpa [next] using head
      have given : (first :: more).takeWhile (fun c => !isBlank c) ≠ [] := by simp [plain]
      refine ⟨line.takeWhile isBlank, (first :: more).takeWhile fun c => !isBlank c,
        (first :: more).dropWhile fun c => !isBlank c, ?_, fun c member => List.mem_takeWhile_imp member, given, ?_, stops⟩
      · rw [List.takeWhile_append_dropWhile, ← begun, List.takeWhile_append_dropWhile]
      · intro c member
        simpa using List.mem_takeWhile_imp member

theorem starts_iff : Starts fields line ↔ ∃ more, words line = fields ++ more := by
  constructor
  · intro starts
    induction starts with
    | nothing rest => exact ⟨words rest, rfl⟩
    | field gap given unbroken stops later ih =>
        obtain ⟨more, read⟩ := ih
        exact ⟨more, by rw [words_field gap given unbroken stops, read, List.cons_append]⟩
  · intro read
    induction fields generalizing line with
    | nil => exact Starts.nothing line
    | cons field fields ih =>
        obtain ⟨more, read⟩ := read
        cases field_exists line with
        | inl blank =>
            have empty := words_blanks blank []
            rw [List.append_nil, read] at empty
            cases empty
        | inr parts =>
            obtain ⟨blanks, first, rest, rfl, gap, given, unbroken, stops⟩ := parts
            rw [words_field gap given unbroken stops, List.cons_append] at read
            injection read with same below
            rw [← same]
            exact Starts.field gap given unbroken stops (ih ⟨more, below⟩)

theorem head_trim (line : List Char) : (trim line).head? = (words line).head?.bind List.head? := by
  cases field_exists line with
  | inl blank =>
      have silent : trimLeft line = [] := List.dropWhile_eq_nil_iff.mpr blank
      have empty := words_blanks blank []
      rw [List.append_nil] at empty
      rw [trim, silent, empty]
      rfl
  | inr parts =>
      obtain ⟨blanks, field, rest, rfl, gap, given, unbroken, stops⟩ := parts
      rw [words_field gap given unbroken stops]
      cases field with
      | nil => exact absurd rfl given
      | cons first more =>
          have plain : isBlank first = false := unbroken first List.mem_cons_self
          have begun : trimLeft (blanks ++ (first :: more ++ rest)) = first :: (more ++ rest) := by
            rw [trimLeft, List.dropWhile_append_of_pos gap]
            simp [plain]
          have kept : (trimRight (first :: (more ++ rest))).head? = some first := by
            rw [trimRight, List.reverse_cons, List.dropWhile_append]
            split
            · simp [plain]
            · simp
          rw [trim, begun, kept]
          rfl

end Starts
end RemoteExec.Text

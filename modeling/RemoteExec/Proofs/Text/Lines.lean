import Mathlib.Data.List.Induction
import Mathlib.Data.List.TakeWhile
import RemoteExec.Text.Blank

namespace RemoteExec.Text

section Words

def wordStep (done : List (List Char) × List Char) (c : Char) : List (List Char) × List Char :=
  if isBlank c then (if done.2.isEmpty then done.1 else done.2.reverse :: done.1, []) else (done.1, c :: done.2)

def wordsDone (done : List (List Char) × List Char) : List (List Char) :=
  (if done.2.isEmpty then done.1 else done.2.reverse :: done.1).reverse

theorem words_foldl (s : List Char) : words s = wordsDone (s.foldl wordStep ([], [])) := rfl

theorem foldl_word {w : List Char} (unbroken : ∀ c ∈ w, isBlank c = false) (done : List (List Char) × List Char) :
    w.foldl wordStep done = (done.1, w.reverse ++ done.2) := by
  induction w generalizing done with
  | nil => rfl
  | cons c rest ih =>
      have first : wordStep done c = (done.1, c :: done.2) := by simp [wordStep, unbroken c List.mem_cons_self]
      rw [List.foldl_cons, first, ih fun d member => unbroken d (List.mem_cons_of_mem _ member)]
      simp

theorem wordsDone_foldl (s : List Char) (ws : List (List Char)) (w : List Char) :
    wordsDone (s.foldl wordStep (ws, w)) = ws.reverse ++ wordsDone (s.foldl wordStep ([], w)) := by
  induction s generalizing ws w with
  | nil =>
      cases w with
      | nil => simp [wordsDone]
      | cons c w => simp [wordsDone]
  | cons c rest ih =>
      simp only [List.foldl_cons, wordStep]
      split
      · rw [ih, ih (if w.isEmpty then [] else [w.reverse])]
        split <;> simp
      · rw [ih]

theorem words_one {w : List Char} (unbroken : ∀ c ∈ w, isBlank c = false) (some_given : w ≠ []) : words w = [w] := by
  rw [words_foldl, foldl_word unbroken]
  simp [wordsDone, some_given]

theorem words_cons {w : List Char} (unbroken : ∀ c ∈ w, isBlank c = false) (some_given : w ≠ []) {c : Char}
    (blank : isBlank c = true) (rest : List Char) : words (w ++ c :: rest) = w :: words rest := by
  rw [words_foldl, List.foldl_append, foldl_word unbroken, List.foldl_cons]
  have ended : wordStep ([], w.reverse ++ []) c = ([w], []) := by simp [wordStep, blank, some_given]
  rw [ended, wordsDone_foldl]
  rfl

theorem words_blanks {s : List Char} (blank : ∀ c ∈ s, isBlank c = true) (rest : List Char) :
    words (s ++ rest) = words rest := by
  induction s with
  | nil => rfl
  | cons c later ih =>
      have skipped : wordStep ([], []) c = ([], []) := by simp [wordStep, blank c List.mem_cons_self]
      have step : words (c :: (later ++ rest)) = words (later ++ rest) := by
        rw [words_foldl, List.foldl_cons, skipped, ← words_foldl]
      rw [List.cons_append, step, ih fun d member => blank d (List.mem_cons_of_mem _ member)]

theorem words_blank_end (s : List Char) {c : Char} (blank : isBlank c = true) : words (s ++ [c]) = words s := by
  rw [words_foldl, words_foldl, List.foldl_append, List.foldl_cons, List.foldl_nil]
  cases s.foldl wordStep ([], []) with
  | mk ws w =>
      cases w with
      | nil => simp [wordStep, wordsDone, blank]
      | cons d w => simp [wordStep, wordsDone, blank]

end Words

section Fields

variable (sep : Char)

def fieldStep (done : List (List Char) × List Char) (c : Char) : List (List Char) × List Char :=
  if c == sep then (done.2.reverse :: done.1, []) else (done.1, c :: done.2)

theorem splitOn_foldl (s : List Char) :
    splitOn sep s = ((s.foldl (fieldStep sep) ([], [])).2.reverse :: (s.foldl (fieldStep sep) ([], [])).1).reverse := rfl

theorem splitOn_one {s : List Char} (whole : sep ∉ s) : splitOn sep s = [s] := by
  have unbroken : ∀ done, s.foldl (fieldStep sep) done = (done.1, s.reverse ++ done.2) := by
    induction s with
    | nil => exact fun _ => rfl
    | cons c rest ih =>
        intro done
        have other : (c == sep) = false := by
          rw [beq_eq_false_iff_ne]
          rintro rfl
          exact whole List.mem_cons_self
        rw [List.foldl_cons, fieldStep, other, ih fun member => whole (List.mem_cons_of_mem _ member)]
        simp
  rw [splitOn_foldl, unbroken]
  simp

end Fields

section Lines

def lineStep (done : List (List Char) × List Char) (c : Char) : List (List Char) × List Char :=
  if c == '\n' then (chomp done.2.reverse :: done.1, []) else (done.1, c :: done.2)

def closedLines (s : List Char) : List (List Char) := (s.foldl lineStep ([], [])).1.reverse

def openLine (s : List Char) : List Char := (s.reverse.takeWhile (· != '\n')).reverse

theorem foldl_lineStep (s : List Char) :
    s.foldl lineStep ([], []) = ((closedLines s).reverse, s.reverse.takeWhile (· != '\n')) := by
  refine Prod.ext (by simp [closedLines]) ?_
  induction s using List.reverseRecOn with
  | nil => rfl
  | append_singleton s c ih =>
      rw [List.foldl_append, List.foldl_cons, List.foldl_nil, lineStep, List.reverse_append]
      by_cases ended : c = '\n'
      · simp [ended]
      · simp [ended, ih]

theorem lines_eq (s : List Char) : lines s = closedLines s ++ if openLine s = [] then [] else [openLine s] := by
  have folded : lines s = (if (s.foldl lineStep ([], [])).2.isEmpty then (s.foldl lineStep ([], [])).1
    else (s.foldl lineStep ([], [])).2.reverse :: (s.foldl lineStep ([], [])).1).reverse := rfl
  rw [folded, foldl_lineStep]
  by_cases ended : s.reverse.takeWhile (· != '\n') = []
  · simp [openLine, ended]
  · simp [openLine, ended]

theorem openLine_append {line : List Char} (unbroken : '\n' ∉ line) (s : List Char) :
    openLine (s ++ line) = openLine s ++ line := by
  have all_kept : ∀ c ∈ line.reverse, (c != '\n') = true := by
    intro c member
    rw [bne_iff_ne]
    rintro rfl
    exact unbroken (List.mem_reverse.mp member)
  rw [openLine, List.reverse_append, List.takeWhile_append_of_pos all_kept]
  simp [openLine]

theorem closedLines_append {line : List Char} (unbroken : '\n' ∉ line) (s : List Char) :
    closedLines (s ++ line) = closedLines s := by
  induction line using List.reverseRecOn with
  | nil => simp
  | append_singleton line c ih =>
      have other : (c == '\n') = false := by
        rw [beq_eq_false_iff_ne]
        rintro rfl
        exact unbroken (by simp)
      have before := ih fun member => unbroken (List.mem_append_left _ member)
      rw [← List.append_assoc, closedLines, List.foldl_append, List.foldl_cons, List.foldl_nil, lineStep, other]
      exact before

theorem openLine_ended (s : List Char) : openLine (s ++ ['\n']) = [] := by
  simp [openLine]

theorem closedLines_ended (s : List Char) : closedLines (s ++ ['\n']) = closedLines s ++ [chomp (openLine s)] := by
  rw [closedLines, List.foldl_append, foldl_lineStep]
  simp [lineStep, openLine]

theorem closedLines_first {line : List Char} (unbroken : '\n' ∉ line) (s : List Char) :
    closedLines (s ++ (line ++ ['\n'])) = closedLines s ++ [chomp (openLine s ++ line)] := by
  rw [← List.append_assoc, closedLines_ended, closedLines_append unbroken, openLine_append unbroken]

theorem foldl_lineStep_more (s : List Char) (ls : List (List Char)) (l : List Char) :
    s.foldl lineStep (ls, l) = ((s.foldl lineStep ([], l)).1 ++ ls, (s.foldl lineStep ([], l)).2) := by
  induction s generalizing ls l with
  | nil => rfl
  | cons c rest ih =>
      rw [List.foldl_cons, List.foldl_cons, lineStep, lineStep]
      split
      · rw [ih, ih [chomp l.reverse]]
        simp
      · rw [ih]

theorem lines_closed {s : List Char} (ended : openLine s = []) : lines s = closedLines s := by
  rw [lines_eq, if_pos ended, List.append_nil]

theorem lines_append {s : List Char} (ended : openLine s = []) (t : List Char) :
    lines (s ++ t) = lines s ++ lines t := by
  have folded : ∀ u, lines u = (if (u.foldl lineStep ([], [])).2.isEmpty then (u.foldl lineStep ([], [])).1
    else (u.foldl lineStep ([], [])).2.reverse :: (u.foldl lineStep ([], [])).1).reverse := fun _ => rfl
  have start : s.foldl lineStep ([], []) = ((closedLines s).reverse, []) := by
    rw [foldl_lineStep, List.reverse_eq_nil_iff.mp ended]
  rw [lines_closed ended, folded t, folded (s ++ t), List.foldl_append, start, foldl_lineStep_more]
  split
  · simp
  · simp

theorem lines_line {line : List Char} (unbroken : '\n' ∉ line) (t : List Char) :
    lines (line ++ '\n' :: t) = chomp line :: lines t := by
  have first : lines (line ++ ['\n']) = [chomp line] := by
    have closed := closedLines_first unbroken []
    rw [List.nil_append] at closed
    rw [lines_closed (openLine_ended line), closed]
    rfl
  rw [List.append_cons, lines_append (openLine_ended line), first]
  rfl

theorem lines_added {added : List (List Char)} (unbroken : ∀ line ∈ added, '\n' ∉ line) {s : List Char}
    (ended : openLine s = []) : lines (s ++ (added.map (· ++ ['\n'])).flatten) = closedLines s ++ added.map chomp := by
  have alone : lines (added.map (· ++ ['\n'])).flatten = added.map chomp := by
    induction added with
    | nil => rfl
    | cons line later ih =>
        have rest := ih fun other member => unbroken other (List.mem_cons_of_mem _ member)
        rw [List.map_cons, List.flatten_cons, List.append_assoc, List.singleton_append,
          lines_line (unbroken line List.mem_cons_self), rest]
        rfl
  rw [lines_append ended, lines_closed ended, alone]

theorem lines_last {line : List Char} (unbroken : '\n' ∉ line) (given : line ≠ []) : lines line = [line] := by
  have opened := openLine_append unbroken []
  have closed := closedLines_append unbroken []
  rw [List.nil_append] at opened closed
  rw [lines_eq, opened, closed]
  exact if_neg given

theorem openLine_eq_nil {s : List Char} (ends : s = [] ∨ s.getLast? = some '\n') : openLine s = [] := by
  obtain rfl | feed := ends
  · rfl
  · obtain ⟨front, rfl⟩ := List.getLast?_eq_some_iff.mp feed
    exact openLine_ended front

end Lines

section Trimming

theorem trim_blank_end (s : List Char) {c : Char} (blank : isBlank c = true) : trim (s ++ [c]) = trim s := by
  rw [trim, trimLeft, List.dropWhile_append]
  split
  next none =>
    have silent : trimLeft s = [] := List.isEmpty_iff.mp none
    rw [trim, silent]
    simp [blank]
  next given => simp [trim, trimLeft, trimRight, blank]

theorem trim_chomp (line : List Char) : trim (chomp line) = trim line := by
  rw [chomp]
  split
  next front ends =>
    have whole : line = front.reverse ++ ['\r'] := by rw [← List.reverse_reverse line, ends, List.reverse_cons]
    rw [whole, trim_blank_end _ rfl]
  next => rfl

structure Tight (s : List Char) : Prop where
  begun : ∀ c ∈ s.head?, isBlank c = false
  ended : ∀ c ∈ s.getLast?, isBlank c = false

theorem tight_iff (s : List Char) :
    (s.head?.all (!isBlank ·) && s.getLast?.all (!isBlank ·)) = true ↔ Tight s := by
  rw [Bool.and_eq_true, Option.all_eq_true, Option.all_eq_true]
  constructor
  · intro visible
    exact ⟨fun c first => by simpa using visible.1 c first, fun c last => by simpa using visible.2 c last⟩
  · intro tight
    exact ⟨fun c first => by simpa using tight.begun c first, fun c last => by simpa using tight.ended c last⟩

instance (s : List Char) : Decidable (Tight s) := decidable_of_iff _ (tight_iff s)

variable {s : List Char}

theorem trimLeft_begun (begun : ∀ c ∈ s.head?, isBlank c = false) : trimLeft s = s := by
  cases s with
  | nil => rfl
  | cons c rest => rw [trimLeft, List.dropWhile_cons, begun c rfl, if_neg Bool.false_ne_true]

theorem trim_tight (tight : Tight s) : trim s = s := by
  have ended : trimLeft s.reverse = s.reverse := by
    refine trimLeft_begun fun c last => tight.ended c ?_
    rwa [List.head?_reverse] at last
  rw [trim, trimLeft_begun tight.begun, trimRight]
  rw [trimLeft] at ended
  rw [ended, List.reverse_reverse]

theorem trim_around {before after : List Char} (blank : ∀ c ∈ before, isBlank c = true)
    (also : ∀ c ∈ after, isBlank c = true) (s : List Char) : trim (before ++ (s ++ after)) = trim s := by
  have front : ∀ t, trim (before ++ t) = trim t := by
    intro t
    rw [trim, trimLeft, List.dropWhile_append_of_pos blank]
    rfl
  rw [front]
  induction after using List.reverseRecOn with
  | nil => rw [List.append_nil]
  | append_singleton after c ih =>
      rw [← List.append_assoc, trim_blank_end _ (also c (by simp))]
      exact ih fun d member => also d (List.mem_append_left _ member)

theorem trim_eq_iff {t : List Char} (tight : Tight t) :
    trim s = t ↔ ∃ left right, s = left ++ (t ++ right) ∧ ∀ c ∈ left ++ right, isBlank c = true := by
  constructor
  · rintro rfl
    have ended : trimLeft s = trim s ++ ((trimLeft s).reverse.takeWhile isBlank).reverse := by
      rw [trim, trimRight, ← List.reverse_append, List.takeWhile_append_dropWhile, List.reverse_reverse]
    refine ⟨s.takeWhile isBlank, ((trimLeft s).reverse.takeWhile isBlank).reverse, ?_, ?_⟩
    · rw [← ended, trimLeft, List.takeWhile_append_dropWhile]
    · refine List.forall_mem_append.mpr ⟨fun c first => List.mem_takeWhile_imp first, fun c last => ?_⟩
      exact List.mem_takeWhile_imp (List.mem_reverse.mp last)
  · rintro ⟨left, right, rfl, blank⟩
    obtain ⟨before, after⟩ := List.forall_mem_append.mp blank
    rw [trim_around before after, trim_tight tight]

end Trimming

section Layouts

inductive Laid : List (List Char) → List Char → Prop where
  | nothing : Laid [] []
  | last {line : List Char} (unbroken : '\n' ∉ line) (given : line ≠ []) : Laid [line] line
  | lf {line text : List Char} {below : List (List Char)} (unbroken : '\n' ∉ line) (later : Laid below text) :
    Laid (line :: below) (line ++ '\n' :: text)
  | crlf {line text : List Char} {below : List (List Char)} (unbroken : '\n' ∉ line) (later : Laid below text) :
    Laid (line :: below) (line ++ '\r' :: '\n' :: text)

-- A carriage return before the line feed may be read as the end of its line or as a blank there.
theorem Laid.trimmed {laid : List (List Char)} {text : List Char} (layout : Laid laid text) :
    (lines text).map trim = laid.map trim := by
  induction layout with
  | nothing => rfl
  | last unbroken given => rw [lines_last unbroken given]
  | lf unbroken _ ih => rw [lines_line unbroken, List.map_cons, List.map_cons, trim_chomp, ih]
  | @crlf line text below unbroken _ ih =>
      have whole : '\n' ∉ line ++ ['\r'] := by simpa using unbroken
      rw [List.append_cons, lines_line whole, List.map_cons, List.map_cons, trim_chomp, trim_blank_end line rfl, ih]

end Layouts

section Cuts

-- A text taken apart at one of its lines. Only the last line may lack its line feed.
structure Cut where
  before : List Char
  line : List Char
  ended : Bool
  after : List Char
  starts : before = [] ∨ before.getLast? = some '\n'
  unbroken : '\n' ∉ line
  last : ended = false → after = []

def Cut.whole (cut : Cut) : String :=
  String.ofList (cut.before ++ (cut.line ++ ((if cut.ended then ['\n'] else []) ++ cut.after)))

def Cut.rest (cut : Cut) : String := String.ofList (cut.before ++ cut.after)

theorem Cut.lines_rest (cut : Cut) : lines cut.rest.toList = lines cut.before ++ lines cut.after := by
  rw [rest, String.toList_ofList, lines_append (openLine_eq_nil cut.starts)]

theorem Cut.lines_whole (cut : Cut) (given : cut.line ≠ []) :
    ∃ read, trim read = trim cut.line ∧ lines cut.whole.toList = lines cut.before ++ read :: lines cut.after := by
  rw [whole, String.toList_ofList, lines_append (openLine_eq_nil cut.starts)]
  by_cases ended : cut.ended = true
  · refine ⟨chomp cut.line, trim_chomp cut.line, ?_⟩
    rw [if_pos ended, List.singleton_append, lines_line cut.unbroken]
  · refine ⟨cut.line, rfl, ?_⟩
    rw [if_neg ended, cut.last (Bool.eq_false_iff.mpr ended), List.append_nil, List.append_nil,
      lines_last cut.unbroken given]
    rfl

end Cuts
end RemoteExec.Text

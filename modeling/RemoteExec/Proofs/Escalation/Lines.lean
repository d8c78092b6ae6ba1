import Mathlib.Data.List.Chain
import RemoteExec.Escalation.Sudo

namespace RemoteExec.Bytes

def Plain (text : Bytes) : Prop := ∀ b ∈ text, b ≠ 10 ∧ b ≠ 13

inductive Ended : Bytes → Prop where
  | lf {text : Bytes} (plain : Plain text) : Ended (text ++ [10])
  | crlf {text : Bytes} (plain : Plain text) : Ended (text ++ [13, 10])
  | cr {text : Bytes} (plain : Plain text) : Ended (text ++ [13])

-- A byte string cut into lines: each has at most the one end that it ends in, any line that another follows has one,
-- and CR LF stay together.
structure Lined (pieces : List Bytes) (whole : Bytes) : Prop where
  joined : pieces.flatten = whole
  inhabited : ∀ line ∈ pieces, line ≠ []
  formed : ∀ line ∈ pieces, Ended line ∨ Plain line
  followed : pieces.IsChain fun line next => Ended line ∧ ¬(line.getLast? = some 13 ∧ next.head? = some 10)

variable {text line rest whole more : Bytes} {pieces others : List Bytes}

theorem Plain.append (plain : Plain text) (also : Plain rest) : Plain (text ++ rest) := by
  intro b member
  cases List.mem_append.mp member with
  | inl first => exact plain b first
  | inr later => exact also b later

theorem Ended.inhabited (ended : Ended line) : line ≠ [] := by
  cases ended with
  | lf => simp
  | crlf => simp
  | cr => simp

theorem linesFrom_plain (plain : Plain text) (line rest : Bytes) :
    linesFrom line (text ++ rest) = linesFrom (text.reverse ++ line) rest := by
  induction text generalizing line with
  | nil => rfl
  | cons b later ih =>
      obtain ⟨first, others⟩ := List.forall_mem_cons.mp plain
      have skipped : linesFrom line (b :: (later ++ rest)) = linesFrom (b :: line) (later ++ rest) := by
        rw [linesFrom.eq_3 _ _ _ fun _ start => absurd start first.2, if_neg (not_or_intro first.1 first.2)]
      rw [List.cons_append, skipped, ih others, List.reverse_cons, List.append_assoc, List.singleton_append]

theorem lines_plain (plain : Plain text) (given : text ≠ []) : lines text = [text] := by
  have read := linesFrom_plain plain [] []
  rw [List.append_nil, List.append_nil] at read
  rw [lines, read, linesFrom, if_neg (by simpa using given), List.reverse_reverse]

-- A line that ends is read off the front, unless its CR would be taken together with an LF behind it.
theorem lines_ended (ended : Ended line) (rest : Bytes) (unsplit : ¬(line.getLast? = some 13 ∧ rest.head? = some 10)) :
    lines (line ++ rest) = line :: lines rest := by
  cases ended with
  | lf plain =>
      rw [lines, List.append_assoc, linesFrom_plain plain]
      simp [linesFrom, lines]
  | crlf plain =>
      rw [lines, List.append_assoc, linesFrom_plain plain]
      simp [linesFrom, lines]
  | cr plain =>
      rw [lines, List.append_assoc, linesFrom_plain plain]
      cases rest with
      | nil => simp [linesFrom, lines]
      | cons b later =>
          have other : b ≠ 10 := by
            intro feed
            exact unsplit ⟨by simp, by rw [feed, List.head?_cons]⟩
          simp [linesFrom, lines, other]

theorem lined_nil : Lined [] [] := ⟨rfl, by simp, by simp, List.IsChain.nil⟩

theorem lined_plain (plain : Plain text) (given : text ≠ []) : Lined [text] text := by
  constructor
  case joined => simp
  case inhabited => simpa using given
  case formed => simpa using Or.inr plain
  case followed => exact List.IsChain.singleton text

theorem Lined.head (lined : Lined pieces whole) {next : Bytes} (first : pieces.head? = some next) :
    next.head? = whole.head? := by
  cases pieces with
  | nil => cases first
  | cons line later =>
      cases first
      have given := lined.inhabited next List.mem_cons_self
      rw [← lined.joined, List.flatten_cons, List.head?_append_of_ne_nil _ given]

theorem Lined.cons (ended : Ended line) (lined : Lined pieces rest)
    (unsplit : ¬(line.getLast? = some 13 ∧ rest.head? = some 10)) : Lined (line :: pieces) (line ++ rest) := by
  constructor
  case joined => rw [List.flatten_cons, lined.joined]
  case inhabited => exact List.forall_mem_cons.mpr ⟨ended.inhabited, lined.inhabited⟩
  case formed => exact List.forall_mem_cons.mpr ⟨Or.inl ended, lined.formed⟩
  case followed =>
    refine List.isChain_cons.mpr ⟨?_, lined.followed⟩
    intro next first
    rw [lined.head first]
    exact ⟨ended, unsplit⟩

-- The bytes of the line under way come in reverse.
theorem linesFrom_lined (line text : Bytes) (started : Plain line.reverse) :
    Lined (linesFrom line text) (line.reverse ++ text) := by
  fun_induction linesFrom line text with
  | case1 line none =>
      rw [List.isEmpty_iff.mp none]
      exact lined_nil
  | case2 line given =>
      rw [List.append_nil]
      exact lined_plain started (by simpa using given)
  | case3 line rest ih =>
      have first : Ended (10 :: 13 :: line).reverse := by
        rw [List.reverse_cons, List.reverse_cons, List.append_assoc]
        exact Ended.crlf started
      have lined := Lined.cons first (ih (List.forall_mem_nil _)) (by simp)
      simpa using lined
  | case4 line b rest unpaired ends ih =>
      have first : Ended (b :: line).reverse := by
        rw [List.reverse_cons]
        cases ends with
        | inl feed =>
            rw [feed]
            exact Ended.lf started
        | inr feed =>
            rw [feed]
            exact Ended.cr started
      have unsplit : ¬((b :: line).reverse.getLast? = some 13 ∧ rest.head? = some 10) := by
        intro split
        obtain ⟨last, next⟩ := split
        obtain ⟨later, same⟩ := List.head?_eq_some_iff.mp next
        exact unpaired later (by simpa using last) same
      have lined := Lined.cons first (ih (List.forall_mem_nil _)) unsplit
      simpa using lined
  | case5 line b rest unpaired goes_on ih =>
      have plain : Plain (b :: line).reverse := by
        rw [List.reverse_cons]
        exact started.append (List.forall_mem_singleton.mpr (not_or.mp goes_on))
      simpa using ih plain

theorem lines_lined (whole : Bytes) : Lined (lines whole) whole := linesFrom_lined [] whole (List.forall_mem_nil _)

theorem Lined.unique (lined : Lined pieces whole) : pieces = lines whole := by
  induction pieces generalizing whole with
  | nil =>
      rw [← lined.joined]
      rfl
  | cons line later ih =>
      have below : Lined later later.flatten :=
        ⟨rfl, (List.forall_mem_cons.mp lined.inhabited).2, (List.forall_mem_cons.mp lined.formed).2, lined.followed.tail⟩
      rw [← lined.joined, List.flatten_cons]
      cases later with
      | nil =>
          rw [List.flatten_nil, List.append_nil]
          cases lined.formed line List.mem_cons_self with
          | inl ended =>
              have read := lines_ended ended [] (by simp)
              rw [List.append_nil] at read
              exact read.symm
          | inr plain => exact (lines_plain plain (lined.inhabited line List.mem_cons_self)).symm
      | cons next others =>
          obtain ⟨ended, unsplit⟩ := (List.isChain_cons_cons.mp lined.followed).1
          rw [below.head (List.head?_cons)] at unsplit
          rw [lines_ended ended _ unsplit, ← ih below]

theorem lined_iff (whole : Bytes) (pieces : List Bytes) : Lined pieces whole ↔ pieces = lines whole := by
  constructor
  · exact Lined.unique
  · intro same
    rw [same]
    exact lines_lined whole

theorem Lined.last (lined : Lined pieces whole) {last : Bytes} (ends : pieces.getLast? = some last) :
    last ∈ pieces ∧ last.getLast? = whole.getLast? := by
  obtain ⟨front, same⟩ := List.getLast?_eq_some_iff.mp ends
  have member : last ∈ pieces := List.mem_of_getLast? ends
  have given := lined.inhabited last member
  rw [← lined.joined, same, List.flatten_append, List.flatten_singleton, List.getLast?_append_of_ne_nil _ given]
  exact ⟨by simp, rfl⟩

theorem Lined.append (lined : Lined pieces whole) (fed : whole.getLast? = some 10) (also : Lined others more) :
    Lined (pieces ++ others) (whole ++ more) := by
  constructor
  case joined => rw [List.flatten_append, lined.joined, also.joined]
  case inhabited => exact List.forall_mem_append.mpr ⟨lined.inhabited, also.inhabited⟩
  case formed => exact List.forall_mem_append.mpr ⟨lined.formed, also.formed⟩
  case followed =>
    refine List.isChain_append.mpr ⟨lined.followed, also.followed, ?_⟩
    intro last ends next first
    obtain ⟨member, same⟩ := lined.last ends
    rw [fed] at same
    have ended : Ended last := by
      cases lined.formed last member with
      | inl ended => exact ended
      | inr plain => exact absurd rfl (plain 10 (List.mem_of_getLast? same)).1
    rw [same]
    exact ⟨ended, by simp⟩

theorem lines_append (fed : whole.getLast? = some 10) (more : Bytes) :
    lines (whole ++ more) = lines whole ++ lines more :=
  ((lines_lined whole).append fed (lines_lined more)).unique.symm

end Bytes

namespace Escalation

theorem scanLines_append (e : Escalation) (lines later : List Bytes) :
    e.scanLines (lines ++ later) = if e.scanLines lines = .waiting then e.scanLines later else e.scanLines lines := by
  induction lines with
  | nil => rfl
  | cons line rest ih =>
      rw [List.cons_append, scanLines, scanLines]
      cases e.isSuccess line with
      | true => rfl
      | false =>
          cases e.isPrompt line with
          | true => rfl
          | false => exact ih

theorem output_read_by_lines :
    (∀ whole pieces, Bytes.Lined pieces whole ↔ pieces = Bytes.lines whole) ∧
    (∀ whole more : Bytes, whole.getLast? = some 10 → Bytes.lines (whole ++ more) = whole.lines ++ more.lines) ∧
    ∀ (e : Escalation) (whole more : Bytes), whole.getLast? = some 10 →
      e.scan (whole ++ more) = if e.scan whole = .waiting then e.scan more else e.scan whole := by
  refine ⟨Bytes.lined_iff, ?_, ?_⟩
  · intro whole more fed
    exact Bytes.lines_append fed more
  · intro e whole more fed
    rw [scan, Bytes.lines_append fed, scanLines_append]
    rfl

def lecture : Bytes := Bytes.ofString "We trust you\r\rhave received\r\n\n"

def prompted : Bytes := Bytes.ofString "[sudo via ssh-transport, key=k] password:\r\nBECOME-SUCCESS-k"

theorem lecture_passed_over :
    Bytes.Lined [Bytes.ofString "We trust you\r", [13], Bytes.ofString "have received\r\n", [10]] lecture ∧
    lecture.getLast? = some 10 ∧
    Bytes.lines (lecture ++ prompted) = lecture.lines ++ prompted.lines ∧
    (Sudo.escalation ⟨"root", some "pw", "k"⟩).scan (lecture ++ prompted) = .passwordPrompt := by
  obtain ⟨cut, joins, passes⟩ := output_read_by_lines
  have fed : lecture.getLast? = some 10 := by decide +kernel
  have waiting : (Sudo.escalation ⟨"root", some "pw", "k"⟩).scan lecture = .waiting := by decide +kernel
  have prompt : (Sudo.escalation ⟨"root", some "pw", "k"⟩).scan prompted = .passwordPrompt := by decide +kernel
  have found := passes (Sudo.escalation ⟨"root", some "pw", "k"⟩) lecture prompted fed
  rw [if_pos waiting, prompt] at found
  exact ⟨(cut _ _).mpr (by decide +kernel), fed, joins _ _ fed, found⟩

end Escalation
end RemoteExec

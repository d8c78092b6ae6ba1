import RemoteExec.Proofs.Files.Writing
import RemoteExec.Proofs.Scp.Header
import RemoteExec.Proofs.Session.Steps
import RemoteExec.Proofs.Text.Utf8
import RemoteExec.Scp.Transfer

namespace RemoteExec.Scp

variable {π α : Type}

section Lines

def lineOf (b : Bytes) : Bytes := b.takeWhile (· != 10) ++ (b.dropWhile (· != 10)).take 1

def restOf (b : Bytes) : Bytes := (b.dropWhile (· != 10)).tail

theorem kept_unbroken {line : Bytes} (unbroken : 10 ∉ line) : ∀ b ∈ line, (b != 10) = true := by
  intro b member
  rw [bne_iff_ne]
  rintro rfl
  exact unbroken member

theorem lineOf_feed {line : Bytes} (unbroken : 10 ∉ line) (rest : Bytes) : lineOf (line ++ 10 :: rest) = line ++ [10] := by
  rw [lineOf, List.takeWhile_append_of_pos (kept_unbroken unbroken), List.dropWhile_append_of_pos (kept_unbroken unbroken)]
  simp

theorem restOf_feed {line : Bytes} (unbroken : 10 ∉ line) (rest : Bytes) : restOf (line ++ 10 :: rest) = rest := by
  rw [restOf, List.dropWhile_append_of_pos (kept_unbroken unbroken)]
  simp

theorem unbroken_iff (text : String) : '\n' ∉ text.toList ↔ 10 ∉ Bytes.ofString text :=
  not_congr (Bytes.mem_ofString_small text (n := 10) (by decide)).symm

theorem ofString_feed (text : String) : Bytes.ofString (text ++ "\n") = Bytes.ofString text ++ [10] := by
  have feed : Bytes.ofString "\n" = [10] := by
    rw [Bytes.ofString_flatMap]
    rfl
  rw [Bytes.ofString_append, feed]

theorem lineOf_text {text : String} (unbroken : '\n' ∉ text.toList) (rest : Bytes) :
    lineOf (Bytes.ofString text ++ 10 :: rest) = Bytes.ofString (text ++ "\n") ∧
      restOf (Bytes.ofString text ++ 10 :: rest) = rest := by
  have plain := (unbroken_iff text).mp unbroken
  exact ⟨by rw [lineOf_feed plain, ofString_feed], restOf_feed plain rest⟩

end Lines

namespace Talk

@[simp] theorem run_write (far : FarEnd π) (b : Bytes) (w : Wire π) (fs : FileSystem) :
    write far b (w, fs) = (.ok (), (⟨w.incoming ++ (far.answer w.peer b).1, (far.answer w.peer b).2⟩, fs)) := rfl

@[simp] theorem run_take (n : Nat) (w : Wire π) (fs : FileSystem) :
    take n (w, fs) = (.ok (w.incoming.take n), ({ w with incoming := w.incoming.drop n }, fs)) := rfl

@[simp] theorem run_byte (b : UInt8) (rest : Bytes) (peer : π) (fs : FileSystem) :
    byte (⟨b :: rest, peer⟩, fs) = (.ok b, (⟨rest, peer⟩, fs)) := rfl

@[simp] theorem run_files (s : Wire π × FileSystem) : files s = (.ok s.2, s) := rfl

@[simp] theorem run_setFiles (fs : FileSystem) (s : Wire π × FileSystem) : setFiles fs s = (.ok (), (s.1, fs)) := rfl

@[simp] theorem run_ofExcept (e : Except IoError α) (s : Wire π × FileSystem) : ofExcept e s = (e, s) := by
  cases e with
  | ok value => rfl
  | error e => rfl

theorem run_lineBytes (b : Bytes) (peer : π) (fs : FileSystem) :
    lineBytes (⟨b, peer⟩, fs) = (.ok (lineOf b), (⟨restOf b, peer⟩, fs)) := rfl

theorem run_line_text (start : String) {s : String} {b : Bytes} (text : lineOf b = Bytes.ofString s) (peer : π)
    (fs : FileSystem) : line start (⟨b, peer⟩, fs) = (.ok (start ++ s), (⟨restOf b, peer⟩, fs)) := by
  simp only [line, run_bind, run_lineBytes, text, ← Bytes.ofString_append, Bytes.fault_ofString, Bytes.toString_ofString,
    run_pure]

theorem run_line (start : String) {text : List Char} (unbroken : '\n' ∉ text) (rest : Bytes) (peer : π)
    (fs : FileSystem) :
    line start (⟨Bytes.ofString (String.ofList text) ++ 10 :: rest, peer⟩, fs) =
      (.ok (start ++ String.ofList (text ++ ['\n'])), (⟨rest, peer⟩, fs)) := by
  have letters : '\n' ∉ (String.ofList text).toList := by rwa [String.toList_ofList]
  have feed : String.ofList ['\n'] = "\n" := rfl
  obtain ⟨whole, after⟩ := lineOf_text letters rest
  rw [run_line_text start whole, after, String.ofList_append, feed]

end Talk
variable {far : FarEnd π}

theorem acknowledgement_zero (rest : Bytes) (peer : π) (fs : FileSystem) :
    acknowledgement (⟨0 :: rest, peer⟩, fs) = (.ok (), (⟨rest, peer⟩, fs)) := rfl

theorem refusal_fails (s : Wire π × FileSystem) : ∃ e t, (refusal : Talk π α) s = (.error e, t) := by
  simp only [refusal, run_bind]
  cases Talk.line "" s with
  | mk outcome t =>
      cases outcome with
      | ok message => exact ⟨_, t, rfl⟩
      | error e => exact ⟨e, t, rfl⟩

theorem acknowledgement_other {b : UInt8} (other : b ≠ 0) (rest : Bytes) (peer : π) (fs : FileSystem) :
    ∃ e t, acknowledgement (⟨b :: rest, peer⟩, fs) = (.error e, t) := by
  simp only [acknowledgement, run_bind, Talk.run_byte, if_neg other]
  split
  · exact refusal_fails _
  · exact ⟨_, _, rfl⟩

variable (far) in
theorem header_line {text : List Char} (unbroken : '\n' ∉ text) (fuel : Nat) (rest : Bytes) (peer : π) (fs : FileSystem) :
    header far (fuel + 1) (⟨67 :: (Bytes.ofString (String.ofList text) ++ 10 :: rest), peer⟩, fs) =
      (.ok (String.ofList ('C' :: (text ++ ['\n']))), (⟨rest, peer⟩, fs)) := by
  have joined : "C" ++ String.ofList (text ++ ['\n']) = String.ofList ('C' :: (text ++ ['\n'])) := by simp
  rw [joined.symm, ← Talk.run_line "C" unbroken rest peer fs]
  rfl

section Message

-- What of a name, and of the line feed after it, stands behind the first line feed.
def spill (name : String) : Bytes :=
  Bytes.ofString (String.ofList ((name.toList ++ ['\n']).dropWhile (· != '\n')).tail)

def message (mode : Nat) (content : Bytes) (remote : String) : Bytes :=
  Bytes.ofString (headerLine mode content.length remote) ++ (content ++ [0])

@[simp] theorem answer_deaf (incoming sent b : Bytes) : (deaf incoming).1.answer sent b = ([], sent ++ b) := rfl

theorem send_message {fs : FileSystem} {source : String} {content : Bytes} {mode : Nat}
    (given : fs.node source = .ok (.file content mode)) (remote : String) :
    send (deaf [0, 0, 0]).1 source remote ((deaf [0, 0, 0]).2, fs) =
      (.ok (), (⟨[], message mode content remote⟩, fs)) := by
  have start : (deaf [0, 0, 0]).2 = ⟨[0, 0, 0], []⟩ := rfl
  simp [send, confirm, start, FileSystem.stat_file given, FileSystem.read_file given, acknowledgement_zero, message]

theorem spill_cut {name : String} {front back : List Char} (cut : name.toList ++ ['\n'] = front ++ '\n' :: back)
    (unbroken : '\n' ∉ front) : spill name = Bytes.ofString (String.ofList back) := by
  have kept : ∀ c ∈ front, (c != '\n') = true := by
    intro c member
    rw [bne_iff_ne]
    rintro rfl
    exact unbroken member
  rw [spill, cut, List.dropWhile_append_of_pos kept]
  simp

theorem headerLine_cut {size : Nat} (fits : size ≤ Decimal.largest64) (mode : Nat) (remote : String) :
    ∃ text, '\n' ∉ text ∧ headerSize (String.ofList ('C' :: (text ++ ['\n']))) = .ok size ∧
      Bytes.ofString (headerLine mode size remote) =
        67 :: (Bytes.ofString (String.ofList text) ++ 10 :: spill (nameOf remote)) := by
  have ended : '\n' ∈ (nameOf remote).toList ++ ['\n'] := by simp
  obtain ⟨front, back, cut, unbroken⟩ := List.eq_append_cons_of_mem ended
  refine ⟨opening mode size ++ front, ?_, ?_, ?_⟩
  · rw [List.mem_append, not_or]
    exact ⟨opening_unbroken mode size, unbroken⟩
  · rw [List.append_assoc]
    exact headerSize_line fits (front ++ ['\n'])
  · have first : String.utf8EncodeChar 'C' = [67] := rfl
    have feed : String.utf8EncodeChar '\n' = [10] := rfl
    rw [spill_cut cut unbroken, Bytes.ofString_flatMap, headerLine_letters, cut]
    simp [Bytes.ofString_flatMap, first, feed]

theorem receive_message {size : Nat} (mode : Nat) (fits : size ≤ Decimal.largest64) (remote : String) (body : Bytes)
    {there ready after : FileSystem} {target : String} (created : there.write target [] = .ok ready)
    (enough : size ≤ (spill (nameOf remote) ++ body).length)
    (stored : ready.write target ((spill (nameOf remote) ++ body).take size) = .ok after) (incoming sent : Bytes) :
    receive (deaf incoming).1 target (⟨Bytes.ofString (headerLine mode size remote) ++ body, sent⟩, there) =
      (do acknowledgement; confirm (deaf incoming).1)
        (⟨(spill (nameOf remote) ++ body).drop size, sent ++ [0] ++ [0]⟩, after) := by
  obtain ⟨text, unbroken, announced, line⟩ := headerLine_cut fits mode remote
  have whole : ((spill (nameOf remote) ++ body).take size).length = size := by
    rw [List.length_take]
    omega
  have read := header_line (deaf incoming).1 unbroken (deaf incoming).1.bound
    (spill (nameOf remote) ++ body) (sent ++ [0]) there
  simp only [receive, confirm, run_bind, Talk.run_write, answer_deaf, List.append_nil, line, List.cons_append,
    List.append_assoc, read, Talk.run_ofExcept, announced, Talk.run_files, created, Talk.run_setFiles, Talk.run_take,
    stored, whole, ne_eq, not_true_eq_false, if_false]

theorem prefix_ended_iff (content all : Bytes) :
    content ++ [0] <+: all ↔ all.take content.length = content ∧ ∃ rest, all.drop content.length = 0 :: rest := by
  constructor
  · rintro ⟨rest, rfl⟩
    simp
  · rintro ⟨taken, rest, dropped⟩
    refine ⟨rest, ?_⟩
    rw [← List.take_append_drop content.length all, taken, dropped]
    simp

-- Bytes without a zero in front of a content cannot be mistaken for it: content would go on and on like them and
-- never come to its end.
theorem not_prefix_spilled {spilled : Bytes} (given : spilled ≠ []) (plain : 0 ∉ spilled) (content : Bytes) :
    ¬ content ++ [0] <+: spilled ++ (content ++ [0]) := by
  intro mistaken
  have front : spilled <+: spilled ++ (content ++ [0]) := List.prefix_append _ _
  by_cases short : content.length < spilled.length
  · have inside : content ++ [0] <+: spilled :=
      List.prefix_of_prefix_length_le mistaken front (by simpa using Nat.succ_le_of_lt short)
    exact plain (inside.subset (by simp))
  · have starts : spilled <+: content :=
      List.prefix_of_prefix_length_le front ((List.prefix_append content [0]).trans mistaken) (by omega)
    obtain ⟨later, rfl⟩ := starts
    have shorter : later.length < (spilled ++ later).length := by
      rw [List.length_append]
      have := List.length_pos_iff.mpr given
      omega
    refine not_prefix_spilled given plain later ?_
    simpa [List.append_assoc, List.prefix_append_right_inj] using mistaken
termination_by content.length

theorem spill_whole {name : String} (whole : '\n' ∉ name.toList) : spill name = [] := by
  rw [spill_cut (show name.toList ++ ['\n'] = name.toList ++ '\n' :: [] from rfl) whole, Bytes.ofString_flatMap]
  rfl

theorem spill_broken {name : String} (broken : '\n' ∈ name.toList) (plain : '\x00' ∉ name.toList) :
    spill name ≠ [] ∧ 0 ∉ spill name := by
  obtain ⟨front, back, cut, unbroken⟩ := List.eq_append_cons_of_mem broken
  have ended : name.toList ++ ['\n'] = front ++ '\n' :: (back ++ ['\n']) := by simp [cut]
  rw [spill_cut ended unbroken]
  constructor
  · intro empty
    have feed : (10 : UInt8) ∈ Bytes.ofString (String.ofList (back ++ ['\n'])) :=
      (Bytes.mem_ofString_small _ (n := 10) (by decide)).mpr (by simp)
    rw [empty] at feed
    cases feed
  · intro zero
    have member : '\x00' ∈ back ++ ['\n'] := by
      simpa using (Bytes.mem_ofString_small _ (n := 0) (by decide)).mp zero
    rcases List.mem_append.mp member with inside | feed
    · exact plain (by simp [cut, inside])
    · exact absurd feed (by decide)

def Arrives (sent : Bytes) (there : FileSystem) (target : String) (content : Bytes) : Prop :=
  ∃ wire after, receive (deaf sent).1 target ((deaf sent).2, there) = (.ok (), (wire, after)) ∧
    after.read target = .ok content

theorem message_arrives_iff {content : Bytes} (fits : content.length ≤ Decimal.largest64) (mode : Nat) (remote : String)
    {there ready : FileSystem} {target : String} (created : there.write target [] = .ok ready) :
    Arrives (message mode content remote) there target content ↔
      content ++ [0] <+: spill (nameOf remote) ++ (content ++ [0]) := by
  let all := spill (nameOf remote) ++ (content ++ [0])
  have enough : content.length < all.length := by
    simp only [all, List.length_append, List.length_singleton]
    omega
  obtain ⟨after, stored⟩ := FileSystem.write_again created (all.take content.length)
  have ran := receive_message mode fits remote (content ++ [0]) created (Nat.le_of_lt enough) stored
    (message mode content remote) []
  rw [prefix_ended_iff]
  cases dropped : all.drop content.length with
  | nil => exact absurd (List.drop_eq_nil_iff.mp dropped) (by omega)
  | cons b rest =>
      rw [dropped] at ran
      by_cases goes_on : b = 0
      · subst goes_on
        have received : receive (deaf (message mode content remote)).1 target
            ((deaf (message mode content remote)).2, there) = (.ok (), (⟨rest, [0, 0, 0]⟩, after)) :=
          ran.trans (by simp [acknowledgement_zero, confirm])
        have left : after.read target = .ok (all.take content.length) := FileSystem.read_write stored
        constructor
        · rintro ⟨wire, found, again, kept⟩
          rw [received] at again
          cases again
          rw [left] at kept
          exact ⟨Except.ok.inj kept, rest, rfl⟩
        · rintro ⟨taken, _⟩
          exact ⟨_, after, received, by rw [left, taken]⟩
      · obtain ⟨e, t, refused⟩ := acknowledgement_other goes_on rest ([] ++ [0] ++ [0] : Bytes) after
        constructor
        · rintro ⟨wire, found, again, _⟩
          have goes := ran.symm.trans again
          rw [run_bind, refused] at goes
          cases goes
        · rintro ⟨_, more, zero⟩
          exact absurd (List.cons.inj zero).1 goes_on

-- The length of a file is a number of 64 bits. Receiving is given a place where a file can be made.
theorem arrives_iff (here there ready : FileSystem) (source remote target : String) (content : Bytes) (mode : Nat)
    (given : here.node source = .ok (.file content mode)) (fits : content.length ≤ Decimal.largest64)
    (created : there.write target [] = .ok ready) :
    ∃ sent, send (deaf [0, 0, 0]).1 source remote ((deaf [0, 0, 0]).2, here) = (.ok (), (⟨[], sent⟩, here)) ∧
      (Arrives sent there target content ↔ content ++ [0] <+: spill (nameOf remote) ++ (content ++ [0])) ∧
      ('\n' ∉ (nameOf remote).toList → Arrives sent there target content) ∧
      ('\n' ∈ (nameOf remote).toList → '\x00' ∉ (nameOf remote).toList → ¬ Arrives sent there target content) := by
  have arrives := message_arrives_iff fits mode remote created
  refine ⟨message mode content remote, send_message given remote, arrives, ?_, ?_⟩
  · intro whole
    rw [arrives, spill_whole whole]
    exact List.prefix_rfl
  · intro broken plain
    rw [arrives]
    exact not_prefix_spilled (spill_broken broken plain).1 (spill_broken broken plain).2 content

def holding (content : Bytes) : FileSystem := { FileSystem.empty with
  nodes := (["tmp", "work", "list"], .file content FileSystem.fileMode) :: FileSystem.empty.nodes }

def greeting : Bytes := Bytes.ofString "hello"

theorem greeting_arrives_named :
    (∃ sent, send (deaf [0, 0, 0]).1 "list" "/srv/list" ((deaf [0, 0, 0]).2, holding greeting) =
        (.ok (), (⟨[], sent⟩, holding greeting)) ∧ Arrives sent FileSystem.empty "copy" greeting) ∧
    (∃ sent, send (deaf [0, 0, 0]).1 "list" "/srv/a\nb" ((deaf [0, 0, 0]).2, holding greeting) =
        (.ok (), (⟨[], sent⟩, holding greeting)) ∧ ¬ Arrives sent FileSystem.empty "copy" greeting) := by
  have given : (holding greeting).node "list" = .ok (.file greeting FileSystem.fileMode) := by decide +kernel
  have fits : greeting.length ≤ Decimal.largest64 := by decide +kernel
  obtain ⟨plain, sentPlain, _, arrives, _⟩ := arrives_iff (holding greeting) FileSystem.empty _ "list" "/srv/list" "copy"
    greeting FileSystem.fileMode given fits rfl
  obtain ⟨broken, sentBroken, _, _, lost⟩ := arrives_iff (holding greeting) FileSystem.empty _ "list" "/srv/a\nb" "copy"
    greeting FileSystem.fileMode given fits rfl
  exact ⟨⟨plain, sentPlain, arrives (by decide +kernel)⟩,
    ⟨broken, sentBroken, lost (by decide +kernel) (by decide +kernel)⟩⟩

theorem broken_name_lost :
    ¬ ∀ (here there ready : FileSystem) (source remote target : String) (content : Bytes) (mode : Nat),
      here.node source = .ok (.file content mode) → content.length ≤ Decimal.largest64 → there.write target [] = .ok ready →
        ∃ sent, send (deaf [0, 0, 0]).1 source remote ((deaf [0, 0, 0]).2, here) = (.ok (), (⟨[], sent⟩, here)) ∧
          Arrives sent there target content := by
  intro always
  have given : (holding greeting).node "list" = .ok (.file greeting FileSystem.fileMode) := by decide +kernel
  obtain ⟨sent, ran, arrives⟩ := always (holding greeting) FileSystem.empty _ "list" "a\nb" "copy" greeting
    FileSystem.fileMode given (by decide +kernel) rfl
  rw [send_message given] at ran
  cases ran
  rw [message_arrives_iff (by decide +kernel) FileSystem.fileMode "a\nb" rfl] at arrives
  exact not_prefix_spilled (by decide +kernel) (by decide +kernel) greeting arrives

end Message

end RemoteExec.Scp

import RemoteExec.Proofs.Scp.Arrival
import RemoteExec.Proofs.Text.Decoding

namespace RemoteExec.Scp

section Lines

def lineBody (b : Bytes) : Bytes := b.takeWhile (· != 10)

theorem lineBody_unbroken (b : Bytes) : 10 ∉ lineBody b := by
  intro feed
  have kept := List.mem_takeWhile_imp feed
  cases kept

theorem line_split (b : Bytes) :
    (lineBody b = b ∧ lineOf b = b ∧ restOf b = []) ∨
      (b = lineBody b ++ 10 :: restOf b ∧ lineOf b = lineBody b ++ [10]) := by
  by_cases feed : 10 ∈ b
  · obtain ⟨front, rest, rfl, unbroken⟩ := List.eq_append_cons_of_mem feed
    have body : lineBody (front ++ 10 :: rest) = front := by
      rw [lineBody, List.takeWhile_append_of_pos (kept_unbroken unbroken)]
      simp
    rw [body, restOf_feed unbroken, lineOf_feed unbroken]
    exact .inr ⟨rfl, rfl⟩
  · have kept : b.takeWhile (· != 10) = b := List.takeWhile_eq_self_iff.mpr (kept_unbroken feed)
    have gone : b.dropWhile (· != 10) = [] := List.dropWhile_eq_nil_iff.mpr (kept_unbroken feed)
    exact .inl ⟨kept, by rw [lineOf, kept, gone]; simp, by rw [restOf, gone]; rfl⟩

theorem Talk.run_line_foreign {π : Type} (start : String) {b : Bytes} (foreign : ∀ s, lineOf b ≠ Bytes.ofString s)
    (peer : π) (fs : FileSystem) :
    ∃ why, Talk.line start (⟨b, peer⟩, fs) = (.error ⟨.invalidData, why⟩, (⟨restOf b, peer⟩, fs)) := by
  have unread : (Bytes.ofString start ++ lineOf b).toString? = none := by
    cases read : (Bytes.ofString start ++ lineOf b).toString? with
    | none => rfl
    | some t =>
        obtain ⟨rest, same⟩ := Bytes.ofString_rest ((Bytes.toString_eq_some_iff _ _).mp read)
        exact absurd same (foreign rest)
  simp only [Talk.line, run_bind, Talk.run_lineBytes, unread]
  cases (Bytes.ofString start ++ lineOf b).fault? with
  | none => exact ⟨_, rfl⟩
  | some fault => exact ⟨_, rfl⟩

theorem Talk.run_line_cases {π : Type} (start : String) (b : Bytes) (peer : π) (fs : FileSystem) :
    (∃ s, lineOf b = Bytes.ofString s ∧ Talk.line start (⟨b, peer⟩, fs) = (.ok (start ++ s), (⟨restOf b, peer⟩, fs))) ∨
      ∃ why, Talk.line start (⟨b, peer⟩, fs) = (.error ⟨.invalidData, why⟩, (⟨restOf b, peer⟩, fs)) := by
  by_cases text : ∃ s, lineOf b = Bytes.ofString s
  · obtain ⟨s, text⟩ := text
    exact .inl ⟨s, text, Talk.run_line_text start text peer fs⟩
  · exact .inr (Talk.run_line_foreign start (fun s same => text ⟨s, same⟩) peer fs)

end Lines

section Streams

def stampLines (stamps : List String) : Bytes := stamps.flatMap fun stamp => 84 :: (Bytes.ofString stamp ++ [10])

def Unbroken (stamps : List String) : Prop := ∀ stamp ∈ stamps, '\n' ∉ stamp.toList

def Announces (text : String) (size : Nat) : Prop :=
  ∃ mode digits more, Text.words text.toList = mode :: digits :: more ∧
    Decimal.readNat? Decimal.largest64 digits = some size

structure Headed (incoming : Bytes) (stamps : List String) (text : String) (size : Nat) (rest : Bytes) : Prop where
  stamped : Unbroken stamps
  line : '\n' ∉ text.toList
  announces : Announces text size
  bytes : incoming = stampLines stamps ++ 67 :: (Bytes.ofString text ++ rest)

-- A header, the content and a zero byte; anything may follow.
def Carries (incoming : Bytes) (stamps : List String) (content : Bytes) : Prop :=
  ∃ text rest, Headed incoming stamps text content.length (10 :: (content ++ 0 :: rest))

def HasHeader (incoming : Bytes) : Prop :=
  ∃ stamps text size rest, Headed incoming stamps text size rest ∧ (rest = [] ∨ rest.head? = some 10)

def Refuses (incoming more : Bytes) : Prop :=
  ∃ b, (b = 1 ∨ b = 2) ∧
    ((∃ stamps, Unbroken stamps ∧ incoming = stampLines stamps ++ b :: more) ∨
      ∃ stamps text content, Headed incoming stamps text content.length (10 :: (content ++ b :: more)))

theorem stampLines_cons (stamp : String) (stamps : List String) (more : Bytes) :
    stampLines (stamp :: stamps) ++ more = 84 :: (Bytes.ofString stamp ++ 10 :: (stampLines stamps ++ more)) := by
  simp [stampLines]

def Stampless (b : Bytes) : Prop := ∀ stamp rest, '\n' ∉ stamp.toList → b ≠ 84 :: (Bytes.ofString stamp ++ 10 :: rest)

theorem stampless_head {b : Bytes} (other : b.head? ≠ some 84) : Stampless b := by
  rintro stamp rest - rfl
  exact other rfl

theorem stamps_exist (b : Bytes) : ∃ stamps more, Unbroken stamps ∧ b = stampLines stamps ++ more ∧ Stampless more := by
  by_cases stamped : ∃ stamp rest, '\n' ∉ stamp.toList ∧ b = 84 :: (Bytes.ofString stamp ++ 10 :: rest)
  · obtain ⟨stamp, rest, unbroken, same⟩ := stamped
    have shorter : rest.length < b.length := by
      simp only [same, List.length_cons, List.length_append]
      omega
    obtain ⟨stamps, more, plain, rfl, stampless⟩ := stamps_exist rest
    exact ⟨stamp :: stamps, more, List.forall_mem_cons.mpr ⟨unbroken, plain⟩, by rw [same, stampLines_cons], stampless⟩
  · refine ⟨[], b, by simp [Unbroken], rfl, ?_⟩
    intro stamp rest unbroken same
    exact stamped ⟨stamp, rest, unbroken, same⟩
termination_by b.length

end Streams

def silent (bound : Nat) : FarEnd Bytes := ⟨fun sent b => ([], sent ++ b), bound⟩

def zeros (n : Nat) : Bytes := List.replicate n 0

theorem zeros_one_more (n : Nat) : zeros n ++ [0] = zeros (n + 1) := List.replicate_succ'.symm

theorem zeros_succ (sent : Bytes) (n : Nat) : sent ++ [0] ++ zeros n = sent ++ zeros (n + 1) := by
  simp [zeros, List.replicate_succ]

@[simp] theorem run_confirm (bound : Nat) (b sent : Bytes) (fs : FileSystem) :
    confirm (silent bound) (⟨b, sent⟩, fs) = (.ok (), (⟨b, sent ++ [0]⟩, fs)) := by
  simp [confirm, silent]

section Refusals

variable {π α β : Type} {more : Bytes}

def Tells (more : Bytes) (outcome : Except IoError α) : Prop :=
  (∀ message, Bytes.ofString message = lineBody more → outcome = .error (.ofText message.trimBlanksRight)) ∧
  ((∀ message, Bytes.ofString message ≠ lineBody more) → ∃ why, outcome = .error ⟨.invalidData, why⟩)

theorem Tells.carry {first : Except IoError α} {second : Except IoError β} (tells : Tells more first)
    (carries : ∀ e, first = .error e → second = .error e) : Tells more second := by
  refine ⟨fun message text => carries _ (tells.1 message text), fun foreign => ?_⟩
  obtain ⟨why, failed⟩ := tells.2 foreign
  exact ⟨why, carries _ failed⟩

variable (peer : π) (fs : FileSystem)

theorem trimRight_feed (message : String) : (message ++ "\n").trimBlanksRight = message.trimBlanksRight := by
  have blank : Text.isBlank '\n' = true := rfl
  simp [String.trimBlanksRight, Text.trimRight, blank]

theorem refusal_text {message : String} (text : Bytes.ofString message = lineBody more) :
    ((refusal : Talk π α) (⟨more, peer⟩, fs)).1 = .error (.ofText message.trimBlanksRight) := by
  obtain ⟨body, whole, -⟩ | ⟨-, ended⟩ := line_split more
  · have read : lineOf more = Bytes.ofString message := by rw [whole, text, body]
    simp only [refusal, run_bind, Talk.run_line_text "" read, String.empty_append]
    rfl
  · have read : lineOf more = Bytes.ofString (message ++ "\n") := by rw [ended, ofString_feed, text]
    simp only [refusal, run_bind, Talk.run_line_text "" read, String.empty_append, trimRight_feed]
    rfl

theorem refusal_foreign (foreign : ∀ message, Bytes.ofString message ≠ lineBody more) :
    ∃ why, ((refusal : Talk π α) (⟨more, peer⟩, fs)).1 = .error ⟨.invalidData, why⟩ := by
  have unread : ∀ s, lineOf more ≠ Bytes.ofString s := by
    intro s read
    obtain ⟨body, whole, -⟩ | ⟨-, ended⟩ := line_split more
    · exact foreign s (by rw [← read, whole, body])
    · obtain ⟨text, same, -⟩ := Bytes.ofString_ended (read.symm.trans ended)
      exact foreign text same.symm
  obtain ⟨why, failed⟩ := Talk.run_line_foreign "" unread peer fs
  exact ⟨why, by simp only [refusal, run_bind, failed]⟩

theorem refusal_tells (more : Bytes) : Tells more ((refusal : Talk π α) (⟨more, peer⟩, fs)).1 :=
  ⟨fun _ text => refusal_text peer fs text, fun foreign => refusal_foreign peer fs foreign⟩

end Refusals

section Headers

variable (bound fuel : Nat) (sent : Bytes) (fs : FileSystem)

theorem header_empty : header (silent bound) fuel (⟨[], sent⟩, fs) = (.error .earlyEof, (⟨[], sent⟩, fs)) := by
  cases fuel with
  | zero => rfl
  | succ fuel => rfl

theorem header_stamp {stamp : String} (unbroken : '\n' ∉ stamp.toList) (rest : Bytes) :
    header (silent bound) (fuel + 1) (⟨84 :: (Bytes.ofString stamp ++ 10 :: rest), sent⟩, fs) =
      header (silent bound) fuel (⟨rest, sent ++ [0]⟩, fs) := by
  obtain ⟨line, after⟩ := lineOf_text unbroken rest
  have other : ¬ ((84 : UInt8) = 1 ∨ (84 : UInt8) = 2) := by decide
  simp only [header, run_bind, Talk.run_byte, if_neg other, if_true, Talk.run_line_text "" line, after, run_confirm]

-- What is no time stamp is read in one go.
def firstLine : Talk Bytes String := header (silent 0) 1

theorem header_stampless {more : Bytes} (stampless : Stampless more) :
    header (silent bound) (fuel + 1) (⟨more, sent⟩, fs) = firstLine (⟨more, sent⟩, fs) := by
  cases more with
  | nil => rw [firstLine, header_empty, header_empty]
  | cons b rest =>
      by_cases stamp : b = 84
      · subst stamp
        have other : ¬ ((84 : UInt8) = 1 ∨ (84 : UInt8) = 2) := by decide
        simp only [firstLine, header, run_bind, Talk.run_byte, if_neg other, if_true]
        obtain ⟨s, text, read⟩ | ⟨why, failed⟩ := Talk.run_line_cases "" rest sent fs
        · obtain ⟨-, -, ended⟩ | ⟨whole, line⟩ := line_split rest
          · simp only [read, ended, run_confirm, header_empty]
            rfl
          · obtain ⟨stamp, same, -⟩ := Bytes.ofString_ended (text.symm.trans line)
            have unbroken : '\n' ∉ stamp.toList := by
              rw [unbroken_iff, ← same]
              exact lineBody_unbroken rest
            exact absurd (by rw [← same, ← whole]) (stampless stamp (restOf rest) unbroken)
        · simp only [failed]
      · simp only [firstLine, header, run_bind, Talk.run_byte, if_neg stamp]

theorem header_stamped {stamps : List String} (unbroken : Unbroken stamps) {more : Bytes} (stampless : Stampless more)
    (enough : (stampLines stamps ++ more).length < fuel) :
    header (silent bound) fuel (⟨stampLines stamps ++ more, sent⟩, fs) =
      firstLine (⟨more, sent ++ zeros stamps.length⟩, fs) := by
  induction stamps generalizing fuel sent with
  | nil =>
      cases fuel with
      | zero => exact absurd enough (Nat.not_lt_zero _)
      | succ fuel =>
          have none : sent ++ zeros 0 = sent := List.append_nil sent
          rw [List.length_nil, none]
          exact header_stampless bound fuel sent fs stampless
  | cons stamp stamps ih =>
      obtain ⟨plain, unbroken⟩ := List.forall_mem_cons.mp unbroken
      rw [stampLines_cons] at enough ⊢
      cases fuel with
      | zero => exact absurd enough (Nat.not_lt_zero _)
      | succ fuel =>
          rw [header_stamp bound fuel sent fs plain, ih fuel (sent ++ [0]) unbroken, zeros_succ, List.length_cons]
          simp only [List.length_cons, List.length_append] at enough ⊢
          omega

theorem firstLine_cases (more : Bytes) :
    (∃ e t, firstLine (⟨more, sent⟩, fs) = (.error e, t) ∧ t.2 = fs) ∨
      ∃ b rest s, more = b :: rest ∧ lineOf rest = Bytes.ofString s ∧
        firstLine (⟨more, sent⟩, fs) = (.ok (String.ofList [Char.ofNat b.toNat] ++ s), (⟨restOf rest, sent⟩, fs)) := by
  cases more with
  | nil => exact .inl ⟨_, _, header_empty 0 1 sent fs, rfl⟩
  | cons b rest =>
      simp only [firstLine, header, run_bind, Talk.run_byte]
      by_cases refused : b = 1 ∨ b = 2
      · rw [if_pos refused, refusal, run_bind]
        obtain ⟨s, -, read⟩ | ⟨why, failed⟩ := Talk.run_line_cases "" rest sent fs
        · exact .inl ⟨_, _, by rw [read]; rfl, rfl⟩
        · exact .inl ⟨_, _, by rw [failed], rfl⟩
      · rw [if_neg refused]
        by_cases stamp : b = 84
        · simp only [if_pos stamp, run_bind]
          obtain ⟨s, -, read⟩ | ⟨why, failed⟩ := Talk.run_line_cases "" rest sent fs
          · exact .inl ⟨_, _, by simp only [read, run_confirm]; rfl, rfl⟩
          · exact .inl ⟨_, _, by rw [failed], rfl⟩
        · rw [if_neg stamp]
          obtain ⟨s, text, read⟩ | ⟨why, failed⟩ :=
            Talk.run_line_cases (String.ofList [Char.ofNat b.toNat]) rest sent fs
          · exact .inr ⟨b, rest, s, rfl, text, read⟩
          · exact .inl ⟨_, _, failed, rfl⟩

end Headers

section Sizes

theorem announces_feed (text : String) (size : Nat) : Announces (text ++ "\n") size ↔ Announces text size := by
  have words : Text.words (text ++ "\n").toList = Text.words text.toList := by
    rw [String.toList_append]
    exact Text.words_blank_end text.toList rfl
  rw [Announces, Announces, words]

theorem headerSize_iff (b : UInt8) (s : String) (size : Nat) :
    headerSize (String.ofList [Char.ofNat b.toNat] ++ s) = .ok size ↔ b = 67 ∧ Announces s size := by
  by_cases file : b = 67
  · subst file
    have first : Char.ofNat (67 : UInt8).toNat = 'C' := rfl
    simp only [headerSize, first, Announces, true_and]
    cases cut : Text.words s.toList with
    | nil => simp [cut]
    | cons mode more =>
        cases more with
        | nil => simp [cut]
        | cons digits more =>
            cases read : Decimal.readNat? Decimal.largest64 digits with
            | none => simp [cut, read]
            | some n => simp [cut, read]
  · have other : Char.ofNat b.toNat ≠ 'C' := by
      intro same
      have code := Text.code_ofNat (n := b.toNat) (.inl (by have := b.toNat_lt; omega))
      rw [same] at code
      exact file (UInt8.toNat_inj.mp code.symm)
    constructor
    · intro announced
      simp [headerSize, other] at announced
    · rintro ⟨same, -⟩
      exact absurd same file

end Sizes

section Delivery

variable (target : String)

def delivery (line : String) : Talk Bytes Unit := do
  let size ← Talk.ofExcept (headerSize line)
  confirm (silent 0)
  let fs ← Talk.ofExcept ((← Talk.files).write target [])
  Talk.setFiles fs
  let content ← Talk.take size
  let fs ← Talk.ofExcept (fs.write target content)
  Talk.setFiles fs
  if content.length ≠ size then
    throw ⟨.unexpectedEof,
      "SCP stream ended after " ++ toString content.length ++ " of " ++ toString size ++ " bytes"⟩
  acknowledgement
  confirm (silent 0)

theorem receive_parts (bound : Nat) :
    receive (silent bound) target = (do
      confirm (silent bound)
      let line ← header (silent bound) (bound + 1)
      delivery target line) := rfl

def finish : Talk Bytes Unit := do
  acknowledgement
  confirm (silent 0)

variable {target}

theorem receive_stamped {stamps : List String} (unbroken : Unbroken stamps) {more : Bytes} (stampless : Stampless more)
    {bound : Nat} (enough : (stampLines stamps ++ more).length ≤ bound) (fs : FileSystem) :
    receive (silent bound) target (⟨stampLines stamps ++ more, []⟩, fs) =
      (do let line ← firstLine; delivery target line) (⟨more, zeros (stamps.length + 1)⟩, fs) := by
  have read := header_stamped bound (bound + 1) [0] fs unbroken stampless (Nat.lt_succ_of_le enough)
  simp only [receive_parts, run_bind, run_confirm, List.nil_append, read]
  rfl

variable {line : String} {size : Nat} {rest sent : Bytes} {there ready : FileSystem}

theorem delivery_refused {e : IoError} (refused : headerSize line = .error e) (s : Wire Bytes × FileSystem) :
    delivery target line s = (.error e, s) := by
  rw [delivery, run_bind, refused]
  rfl

theorem delivery_full (announced : headerSize line = .ok size) (created : there.write target [] = .ok ready)
    (full : size ≤ rest.length) (sent : Bytes) :
    ∃ after, after.read target = .ok (rest.take size) ∧
      delivery target line (⟨rest, sent⟩, there) = finish (⟨rest.drop size, sent ++ [0]⟩, after) := by
  obtain ⟨after, stored⟩ := FileSystem.write_again created (rest.take size)
  have whole : (rest.take size).length = size := by
    rw [List.length_take]
    omega
  refine ⟨after, FileSystem.read_write stored, ?_⟩
  simp only [delivery, finish, run_bind, announced, Talk.run_ofExcept, run_confirm, Talk.run_files, created,
    Talk.run_setFiles, Talk.run_take, stored, whole, ne_eq, not_true_eq_false, if_false]

theorem delivery_short (announced : headerSize line = .ok size) (created : there.write target [] = .ok ready)
    (short : rest.length < size) (sent : Bytes) : ∃ e, (delivery target line (⟨rest, sent⟩, there)).1 = .error e := by
  obtain ⟨after, stored⟩ := FileSystem.write_again created (rest.take size)
  have cut : (rest.take size).length ≠ size := by
    rw [List.length_take]
    omega
  simp only [delivery, run_bind, announced, Talk.run_ofExcept, run_confirm, Talk.run_files, created,
    Talk.run_setFiles, Talk.run_take, stored, if_pos cut, run_throw]
  exact ⟨_, rfl⟩

theorem finish_zero (rest sent : Bytes) (fs : FileSystem) :
    finish (⟨0 :: rest, sent⟩, fs) = (.ok (), (⟨rest, sent ++ [0]⟩, fs)) := by
  rw [finish, run_bind, acknowledgement_zero]
  exact run_confirm 0 rest sent fs

theorem finish_ok {b : Bytes} {fs : FileSystem} (well : (finish (⟨b, sent⟩, fs)).1 = .ok ()) :
    ∃ rest, b = 0 :: rest := by
  cases b with
  | nil => cases well
  | cons status rest =>
      by_cases zero : status = 0
      · exact ⟨rest, by rw [zero]⟩
      · obtain ⟨e, t, failed⟩ := acknowledgement_other zero rest sent fs
        rw [finish, run_bind, failed] at well
        cases well

theorem finish_tells {b : UInt8} (refuses : b = 1 ∨ b = 2) (more sent : Bytes) (fs : FileSystem) :
    Tells more (finish (⟨b :: more, sent⟩, fs)).1 := by
  have other : b ≠ 0 := by
    rintro rfl
    exact absurd refuses (by decide)
  have told : Tells more (acknowledgement (⟨b :: more, sent⟩, fs)).1 := by
    simp only [acknowledgement, run_bind, Talk.run_byte, if_neg other, if_pos refuses]
    exact refusal_tells sent fs more
  exact told.carry fun e failed => run_bind_error failed

end Delivery

section Outcomes

variable {incoming : Bytes} {target : String} {there ready : FileSystem}

def received (incoming : Bytes) (target : String) (there : FileSystem) :
    Except IoError Unit × (Wire Bytes × FileSystem) :=
  receive (deaf incoming).1 target ((deaf incoming).2, there)

theorem received_stamped {stamps : List String} (unbroken : Unbroken stamps) {more : Bytes} (stampless : Stampless more)
    (bytes : incoming = stampLines stamps ++ more) :
    received incoming target there =
      (do let line ← firstLine; delivery target line) (⟨more, zeros (stamps.length + 1)⟩, there) := by
  subst bytes
  exact receive_stamped unbroken stampless (Nat.le_refl _) there

theorem Headed.read {stamps : List String} {text : String} {size : Nat} {rest : Bytes}
    (headed : Headed incoming stamps text size (10 :: rest)) (target : String) (there : FileSystem) :
    ∃ line, headerSize line = .ok size ∧
      received incoming target there = delivery target line (⟨rest, zeros (stamps.length + 1)⟩, there) := by
  obtain ⟨whole, after⟩ := lineOf_text headed.line rest
  refine ⟨String.ofList [Char.ofNat (67 : UInt8).toNat] ++ (text ++ "\n"), ?_, ?_⟩
  · exact (headerSize_iff 67 _ size).mpr ⟨rfl, (announces_feed text size).mpr headed.announces⟩
  · have read :=
      Talk.run_line_text (String.ofList [Char.ofNat (67 : UInt8).toNat]) whole (zeros (stamps.length + 1)) there
    rw [after] at read
    rw [received_stamped headed.stamped (stampless_head (by simp)) headed.bytes, run_bind]
    have first : firstLine (⟨67 :: (Bytes.ofString text ++ 10 :: rest), zeros (stamps.length + 1)⟩, there) = _ := read
    rw [first]

-- Either nothing has been touched when it fails, or a header has been read.
theorem received_cases (incoming : Bytes) (target : String) (there : FileSystem) :
    (∃ e t, received incoming target there = (.error e, t) ∧ t.2 = there) ∨
      ∃ stamps text size rest line, Headed incoming stamps text size rest ∧ (rest = [] ∨ rest.head? = some 10) ∧
        headerSize line = .ok size ∧
        received incoming target there = delivery target line (⟨rest.tail, zeros (stamps.length + 1)⟩, there) := by
  obtain ⟨stamps, more, unbroken, bytes, stampless⟩ := stamps_exist incoming
  rw [received_stamped unbroken stampless bytes, run_bind]
  obtain ⟨e, t, failed, kept⟩ | ⟨b, line, s, rfl, text, read⟩ := firstLine_cases (zeros (stamps.length + 1)) there more
  · exact .inl ⟨e, t, by rw [failed], kept⟩
  · rw [read]
    cases announced : headerSize (String.ofList [Char.ofNat b.toNat] ++ s) with
    | error e => exact .inl ⟨e, _, delivery_refused announced _, rfl⟩
    | ok size =>
        obtain ⟨rfl, announces⟩ := (headerSize_iff b s size).mp announced
        refine .inr ?_
        obtain ⟨body, whole, ended⟩ | ⟨whole, feed⟩ := line_split line
        · have same : Bytes.ofString s = line := by rw [← text, whole]
          refine ⟨stamps, s, size, [], _, ⟨unbroken, ?_, announces, ?_⟩, .inl rfl, announced, by rw [ended]; rfl⟩
          · rw [unbroken_iff, same, ← body]
            exact lineBody_unbroken line
          · rw [bytes, same, List.append_nil]
        · obtain ⟨front, same, rfl⟩ := Bytes.ofString_ended (text.symm.trans feed)
          refine ⟨stamps, front, size, 10 :: restOf line, _,
            ⟨unbroken, ?_, (announces_feed front size).mp announces, ?_⟩, .inr rfl, announced, rfl⟩
          · rw [unbroken_iff, ← same]
            exact lineBody_unbroken line
          · rw [bytes, ← same, ← whole]

theorem received_headless (headless : ¬ HasHeader incoming) : (received incoming target there).2.2 = there := by
  obtain ⟨e, t, failed, kept⟩ | ⟨stamps, text, size, rest, line, headed, ended, -, -⟩ :=
    received_cases incoming target there
  · rw [failed]
    exact kept
  · exact absurd ⟨stamps, text, size, rest, headed, ended⟩ headless

theorem received_carries (created : there.write target [] = .ok ready)
    (well : (received incoming target there).1 = .ok ()) :
    ∃ stamps content, Carries incoming stamps content := by
  obtain ⟨e, t, failed, -⟩ | ⟨stamps, text, size, rest, line, headed, ended, announced, ran⟩ :=
    received_cases incoming target there
  · rw [failed] at well
    cases well
  · rw [ran] at well
    by_cases full : size ≤ rest.tail.length
    · obtain ⟨after, -, goes⟩ := delivery_full announced created full (zeros (stamps.length + 1))
      rw [goes] at well
      obtain ⟨more, status⟩ := finish_ok well
      obtain rfl | feed := ended
      · cases size with
        | zero => cases status
        | succ size => exact absurd full (by simp)
      · obtain ⟨body, rfl⟩ := List.head?_eq_some_iff.mp feed
        have whole : (body.take size).length = size := by
          rw [List.length_take]
          exact Nat.min_eq_left full
        refine ⟨stamps, body.take size, text, more, ?_⟩
        rw [whole, ← status, List.tail_cons, List.take_append_drop]
        exact headed
    · obtain ⟨e, failed⟩ := delivery_short announced created (Nat.lt_of_not_le full) (zeros (stamps.length + 1))
      rw [failed] at well
      cases well

theorem carries_received (created : there.write target [] = .ok ready) {stamps : List String} {content : Bytes}
    (carries : Carries incoming stamps content) :
    ∃ rest after, received incoming target there = (.ok (), (⟨rest, zeros (stamps.length + 3)⟩, after)) ∧
      after.read target = .ok content := by
  obtain ⟨text, rest, headed⟩ := carries
  obtain ⟨line, announced, ran⟩ := headed.read target there
  have enough : content.length ≤ (content ++ 0 :: rest).length := by simp
  obtain ⟨after, kept, goes⟩ := delivery_full announced created enough (zeros (stamps.length + 1))
  rw [List.take_left' rfl] at kept
  refine ⟨rest, after, ?_, kept⟩
  rw [ran, goes, List.drop_left' rfl, finish_zero, zeros_one_more, zeros_one_more]

theorem refuses_received (created : there.write target [] = .ok ready) {more : Bytes} (refuses : Refuses incoming more) :
    Tells more (received incoming target there).1 := by
  obtain ⟨b, refusing, ⟨stamps, unbroken, bytes⟩ | ⟨stamps, text, content, headed⟩⟩ := refuses
  · have other : b ≠ 84 := by
      rintro rfl
      exact absurd refusing (by decide)
    have told : Tells more (firstLine (⟨b :: more, zeros (stamps.length + 1)⟩, there)).1 := by
      simp only [firstLine, header, run_bind, Talk.run_byte, if_pos refusing]
      exact refusal_tells _ there more
    rw [received_stamped unbroken (stampless_head (by simp [other])) bytes]
    exact told.carry fun e failed => run_bind_error failed
  · obtain ⟨line, announced, ran⟩ := headed.read target there
    have enough : content.length ≤ (content ++ b :: more).length := by simp
    obtain ⟨after, -, goes⟩ := delivery_full announced created enough (zeros (stamps.length + 1))
    rw [ran, goes, List.drop_left' rfl]
    exact finish_tells refusing more _ after

theorem received_bound (incoming : Bytes) (target : String) (there : FileSystem) {bound : Nat}
    (enough : incoming.length ≤ bound) :
    receive (silent bound) target (⟨incoming, []⟩, there) = received incoming target there := by
  obtain ⟨stamps, more, unbroken, rfl, stampless⟩ := stamps_exist incoming
  rw [receive_stamped unbroken stampless enough, received_stamped unbroken stampless rfl]

theorem received_exactly (incoming : Bytes) (target : String) (there ready : FileSystem)
    (created : there.write target [] = .ok ready) :
    (∀ bound, incoming.length ≤ bound →
      receive (silent bound) target (⟨incoming, []⟩, there) = received incoming target there) ∧
    ((received incoming target there).1 = .ok () ↔ ∃ stamps content, Carries incoming stamps content) ∧
    (∀ stamps content, Carries incoming stamps content →
      ∃ rest after, received incoming target there = (.ok (), (⟨rest, zeros (stamps.length + 3)⟩, after)) ∧
        after.read target = .ok content) ∧
    (∀ more, Refuses incoming more → Tells more (received incoming target there).1) ∧
    (¬ HasHeader incoming → (received incoming target there).2.2 = there) := by
  refine ⟨fun bound enough => received_bound incoming target there enough, ⟨received_carries created, ?_⟩,
    fun stamps content carries => carries_received created carries, fun more refuses => refuses_received created refuses,
    received_headless⟩
  rintro ⟨stamps, content, carries⟩
  obtain ⟨rest, after, ran, -⟩ := carries_received created carries
  rw [ran]

def stamped : Bytes := Bytes.ofString "T1700000000 0 1700000000 0\nC0644 5 list\nhello" ++ [0]

theorem stamped_greeting_received :
    ∃ rest after, received stamped "copy" FileSystem.empty = (.ok (), (⟨rest, [0, 0, 0, 0]⟩, after)) ∧
      after.read "copy" = .ok greeting := by
  have announces : Announces "0644 5 list" greeting.length :=
    ⟨"0644".toList, "5".toList, ["list".toList], by decide +kernel, by decide +kernel⟩
  have headed : Headed stamped ["1700000000 0 1700000000 0"] "0644 5 list" greeting.length (10 :: (greeting ++ 0 :: [])) :=
    ⟨by unfold Unbroken; decide, by decide, announces, by decide +kernel⟩
  exact (received_exactly stamped "copy" FileSystem.empty _ rfl).2.2.1 _ greeting ⟨_, [], headed⟩

theorem foreign_message_withheld :
    Refuses [1, 0xFF, 10] [0xFF, 10] ∧
      ∀ message, (received [1, 0xFF, 10] "copy" FileSystem.empty).1 ≠ .error (.ofText message) := by
  refine ⟨⟨1, .inl rfl, .inl ⟨[], by simp [Unbroken], rfl⟩⟩, fun message told => ?_⟩
  have withheld : (received [1, 0xFF, 10] "copy" FileSystem.empty).1 =
      .error ⟨.invalidData, "invalid utf-8 sequence of 1 bytes from index 0"⟩ := by decide +kernel
  rw [withheld] at told
  cases told

end Outcomes

end RemoteExec.Scp

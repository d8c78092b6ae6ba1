import RemoteExec.Proofs.Scp.Reception

namespace RemoteExec.Scp

variable {π : Type}

section Replies

def granted (replies : Bytes) : Nat := ((replies.take 3).takeWhile (· == 0)).length

def FailsOn (replies : Bytes) (outcome : Except IoError Unit) : Prop :=
  match replies with
  | [] => outcome = .error .earlyEof
  | b :: more =>
    if b = 1 ∨ b = 2 then Tells more outcome
    else outcome = .error (.ofText ("unexpected SCP response byte " ++ hexByte b))

theorem Tells.fails {α : Type} {more : Bytes} {outcome : Except IoError α} (tells : Tells more outcome) :
    ∃ e, outcome = .error e := by
  by_cases text : ∃ message, Bytes.ofString message = lineBody more
  · obtain ⟨message, text⟩ := text
    exact ⟨_, tells.1 message text⟩
  · obtain ⟨why, failed⟩ := tells.2 fun message same => text ⟨message, same⟩
    exact ⟨_, failed⟩

theorem FailsOn.fails {replies : Bytes} {outcome : Except IoError Unit} (fails : FailsOn replies outcome) :
    ∃ e, outcome = .error e := by
  cases replies with
  | nil => exact ⟨_, fails⟩
  | cons b more =>
      rw [FailsOn] at fails
      split at fails
      · exact fails.fails
      · exact ⟨_, fails⟩

theorem refusal_leaves (more : Bytes) (peer : π) (fs : FileSystem) :
    ∃ rest, ((refusal : Talk π Unit) (⟨more, peer⟩, fs)).2 = (⟨rest, peer⟩, fs) := by
  simp only [refusal, run_bind]
  obtain ⟨s, -, read⟩ | ⟨why, failed⟩ := Talk.run_line_cases "" more peer fs
  · exact ⟨_, by rw [read]; rfl⟩
  · exact ⟨_, by rw [failed]⟩

theorem acknowledgement_cases (replies : Bytes) (peer : π) (fs : FileSystem) :
    (∃ rest, replies = 0 :: rest ∧ acknowledgement (⟨replies, peer⟩, fs) = (.ok (), (⟨rest, peer⟩, fs))) ∨
      replies.head? ≠ some 0 ∧ ∃ outcome rest,
        acknowledgement (⟨replies, peer⟩, fs) = (outcome, (⟨rest, peer⟩, fs)) ∧ FailsOn replies outcome := by
  cases replies with
  | nil => exact .inr ⟨by simp, _, [], rfl, rfl⟩
  | cons b more =>
      by_cases zero : b = 0
      · subst zero
        exact .inl ⟨more, rfl, acknowledgement_zero more peer fs⟩
      · refine .inr ⟨by simpa using zero, ?_⟩
        simp only [acknowledgement, run_bind, Talk.run_byte, if_neg zero, FailsOn]
        by_cases refuses : b = 1 ∨ b = 2
        · obtain ⟨rest, left⟩ := refusal_leaves more peer fs
          simp only [if_pos refuses]
          exact ⟨_, rest, Prod.ext rfl left, refusal_tells peer fs more⟩
        · simp only [if_neg refuses]
          exact ⟨_, more, rfl, rfl⟩

theorem granted_stopped {n : Nat} (few : n < 3) {rest : Bytes} (other : rest.head? ≠ some 0) :
    granted (zeros n ++ rest) = n ∧ (zeros n ++ rest).drop n = rest := by
  have none : ∀ k, (rest.take k).takeWhile (· == 0) = [] := by
    intro k
    cases k with
    | zero => rfl
    | succ k =>
        cases rest with
        | nil => rfl
        | cons b more => exact List.takeWhile_cons_of_neg (by simpa using other)
  have zero : ∀ b ∈ zeros n, (b == 0) = true := by simp [zeros]
  have short : (zeros n).length = n := List.length_replicate
  refine ⟨?_, List.drop_left' short⟩
  rw [granted, List.take_append, List.take_of_length_le (by omega), List.takeWhile_append_of_pos zero, none,
    List.append_nil, short]

end Replies

section Stages

def sentAt (mode : Nat) (content : Bytes) (remote : String) : Nat → Bytes
  | 0 => []
  | 1 => Bytes.ofString (headerLine mode content.length remote)
  | _ => message mode content remote

structure Sending (mode : Nat) (content : Bytes) (remote : String) (replies sent : Bytes)
    (outcome : Except IoError Unit) : Prop where
  sent_at : sent = sentAt mode content remote (granted replies)
  done_iff : outcome = .ok () ↔ granted replies = 3
  fails_on : granted replies < 3 → FailsOn (replies.drop (granted replies)) outcome

variable {mode : Nat} {content : Bytes} {remote : String}

theorem Sending.stopped {n : Nat} (few : n < 3) {rest : Bytes} (other : rest.head? ≠ some 0)
    {outcome : Except IoError Unit} (fails : FailsOn rest outcome) :
    Sending mode content remote (zeros n ++ rest) (sentAt mode content remote n) outcome := by
  obtain ⟨count, left⟩ := granted_stopped few other
  obtain ⟨e, failed⟩ := fails.fails
  refine ⟨by rw [count], ?_, fun _ => by rwa [count, left]⟩
  rw [failed, count]
  constructor
  · intro ok
    cases ok
  · intro all
    omega

theorem Sending.done (rest : Bytes) :
    Sending mode content remote (zeros 3 ++ rest) (message mode content remote) (.ok ()) := by
  have count : granted (zeros 3 ++ rest) = 3 := rfl
  exact ⟨by rw [count]; rfl, by simp [count], fun few => by omega⟩

-- What a far end can tell of all that it was sent, and of all that it replied.
structure Account (far : FarEnd π) where
  sent : π → Bytes
  replied : π → Bytes
  sent_more : ∀ p b, sent (far.answer p b).2 = sent p ++ b
  replied_more : ∀ p b, replied (far.answer p b).2 = replied p ++ (far.answer p b).1

-- So many replies were read and were zeros, and the others wait to be read.
structure Account.Stands {far : FarEnd π} (account : Account far) (read : Nat) (sent : Bytes) (w : Wire π) : Prop where
  sent : account.sent w.peer = sent
  replied : account.replied w.peer = zeros read ++ w.incoming

variable {far : FarEnd π} {account : Account far} {fs : FileSystem} {source : String} {w : Wire π} {read : Nat}
  {sent : Bytes}

theorem Account.Stands.written (stands : account.Stands read sent w) (b : Bytes) :
    account.Stands read (sent ++ b) ⟨w.incoming ++ (far.answer w.peer b).1, (far.answer w.peer b).2⟩ :=
  ⟨by rw [account.sent_more, stands.sent], by rw [account.replied_more, stands.replied, List.append_assoc]⟩

def Account.Explains (account : Account far) (mode : Nat) (content : Bytes) (remote : String) (fs : FileSystem)
    (run : Except IoError Unit × (Wire π × FileSystem)) : Prop :=
  ∃ outcome wire, run = (outcome, (wire, fs)) ∧
    Sending mode content remote (account.replied wire.peer) (account.sent wire.peer) outcome

-- One reply is read. If it is no zero, nothing more is sent; else the rest of the sending has one zero more behind it.
theorem Account.Stands.acknowledged (stands : account.Stands read (sentAt mode content remote read) w) (few : read < 3)
    {next : Talk π Unit}
    (goes_on : ∀ later, account.Stands (read + 1) (sentAt mode content remote read) later →
      account.Explains mode content remote fs (next (later, fs))) :
    account.Explains mode content remote fs ((acknowledgement >>= fun _ => next) (w, fs)) := by
  obtain ⟨incoming, peer⟩ := w
  rw [run_bind]
  obtain ⟨rest, rfl, ack⟩ | ⟨other, outcome, rest, ack, fails⟩ := acknowledgement_cases incoming peer fs
  · rw [ack]
    refine goes_on ⟨rest, peer⟩ ⟨stands.sent, ?_⟩
    rw [stands.replied, ← zeros_one_more, List.append_assoc]
    rfl
  · rw [ack]
    obtain ⟨e, rfl⟩ := fails.fails
    refine ⟨_, _, rfl, ?_⟩
    rw [stands.sent, stands.replied]
    exact Sending.stopped few other fails

theorem send_explained (account : Account far) (remote : String) (given : fs.node source = .ok (.file content mode))
    (stands : account.Stands 0 [] w) : account.Explains mode content remote fs (send far source remote (w, fs)) := by
  rw [send, run_bind, Talk.run_files]
  dsimp only
  rw [run_bind, Talk.run_ofExcept, FileSystem.stat_file given]
  refine stands.acknowledged (by decide) fun second stands => ?_
  rw [run_bind, Talk.run_write]
  refine (stands.written _).acknowledged (by decide) fun third stands => ?_
  rw [run_bind, Talk.run_ofExcept, FileSystem.read_file given]
  dsimp only
  rw [run_bind, Talk.run_write]
  dsimp only
  rw [confirm, run_bind, Talk.run_write, ← bind_pure_unit (x := acknowledgement)]
  have stands := (stands.written content).written [0]
  rw [List.append_assoc] at stands
  refine stands.acknowledged (by decide) fun last stands => ⟨.ok (), last, rfl, ?_⟩
  rw [stands.sent, stands.replied]
  exact Sending.done last.incoming

end Stages

section Outcomes

structure Noted (π : Type) where
  peer : π
  sent : Bytes
  replied : Bytes

def FarEnd.noted (far : FarEnd π) : FarEnd (Noted π) where
  answer := fun s b =>
    ((far.answer s.peer b).1, ⟨(far.answer s.peer b).2, s.sent ++ b, s.replied ++ (far.answer s.peer b).1⟩)
  bound := far.bound

def FarEnd.record (far : FarEnd π) : Account far.noted where
  sent := Noted.sent
  replied := Noted.replied
  sent_more := fun _ _ => rfl
  replied_more := fun _ _ => rfl

def deafAccount (replies : Bytes) : Account (deaf replies).1 where
  sent := id
  replied := fun _ => replies
  sent_more := fun _ _ => rfl
  replied_more := fun _ _ => (List.append_nil replies).symm

theorem sending_follows_replies (fs : FileSystem) (source remote : String) (content : Bytes) (mode : Nat)
    (given : fs.node source = .ok (.file content mode)) :
    (∀ replies, ∃ outcome rest sent,
      send (deaf replies).1 source remote ((deaf replies).2, fs) = (outcome, (⟨rest, sent⟩, fs)) ∧
        Sending mode content remote replies sent outcome) ∧
    ∀ {π : Type} (far : FarEnd π) (w : Wire π), ∃ outcome rest peer,
      send far.noted source remote (⟨w.incoming, ⟨w.peer, [], w.incoming⟩⟩, fs) = (outcome, (⟨rest, peer⟩, fs)) ∧
        Sending mode content remote peer.replied peer.sent outcome := by
  constructor
  · intro replies
    have stands : (deafAccount replies).Stands 0 [] (deaf replies).2 := ⟨rfl, rfl⟩
    obtain ⟨outcome, wire, ran, sending⟩ := send_explained _ remote given stands
    exact ⟨outcome, wire.incoming, wire.peer, ran, sending⟩
  · intro π far w
    have stands : far.record.Stands 0 [] ⟨w.incoming, ⟨w.peer, [], w.incoming⟩⟩ := ⟨rfl, rfl⟩
    obtain ⟨outcome, wire, ran, sending⟩ := send_explained _ remote given stands
    exact ⟨outcome, wire.incoming, wire.peer, ran, sending⟩

def turnedDown : Bytes := 0 :: 1 :: Bytes.ofString "no space left \n"

theorem greeting_turned_down :
    (holding greeting).node "list" = .ok (.file greeting FileSystem.fileMode) ∧
    ∃ rest, send (deaf turnedDown).1 "list" "/srv/list" ((deaf turnedDown).2, holding greeting) =
      (.error (.ofText "no space left"), (⟨rest, Bytes.ofString "C0644 5 list\n"⟩, holding greeting)) := by
  have given : (holding greeting).node "list" = .ok (.file greeting FileSystem.fileMode) := by decide +kernel
  obtain ⟨outcome, rest, sent, ran, sending⟩ :=
    (sending_follows_replies (holding greeting) "list" "/srv/list" greeting FileSystem.fileMode given).1 turnedDown
  have count : granted turnedDown = 1 := by decide +kernel
  have told : Tells (Bytes.ofString "no space left \n") outcome := by
    have fails := sending.fails_on (by rw [count]; decide)
    rw [count] at fails
    exact fails
  have header : sent = Bytes.ofString "C0644 5 list\n" := by
    rw [sending.sent_at, count]
    decide +kernel
  have message := told.1 "no space left " (by decide +kernel)
  have trimmed : "no space left ".trimBlanksRight = "no space left" := by decide +kernel
  rw [trimmed] at message
  exact ⟨given, rest, by rw [ran, header, message]⟩

end Outcomes
end RemoteExec.Scp

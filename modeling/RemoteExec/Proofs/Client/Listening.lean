import Mathlib.Data.List.Induction
import Mathlib.Tactic.Tauto
import RemoteExec.Client.Channel

namespace RemoteExec

namespace Message

def bytes : Message → Bytes
  | .data b => b
  | .extended _ b => b
  | _ => []

def isError : Message → Bool
  | .extended code _ => code == 1
  | _ => false

def status? : Message → Option Nat
  | .exitStatus n => some n
  | _ => none

end Message

namespace Client.Channel

section Messages

def mainBytes (ms : List Message) : Bytes := (ms.filter fun m => !m.isError).flatMap Message.bytes

def errorBytes (ms : List Message) : Bytes := (ms.filter Message.isError).flatMap Message.bytes

def lastStatus (ms : List Message) : Option Nat := (ms.filterMap Message.status?).getLast?

theorem output_eq (m : Message) : output m = if m.isError then ([], m.bytes) else (m.bytes, []) := by
  cases m with
  | extended code b => simp [output, Message.isError, Message.bytes]
  | _ => rfl

theorem output_merged (m : Message) : (output m).1 ++ (output m).2 = m.bytes := by
  rw [output_eq]
  split
  · rfl
  · exact List.append_nil m.bytes

theorem lastStatus_append (ms : List Message) (m : Message) :
    lastStatus (ms ++ [m]) = m.status?.or (lastStatus ms) := by
  cases given : m.status? with
  | none => simp [lastStatus, given]
  | some n => simp [lastStatus, given]

variable (c : Channel) (m : Message)

@[simp] theorem note_ended : (c.note m).ended = c.ended := by cases m <;> rfl

theorem note_status : (c.note m).exitStatus = m.status?.or c.exitStatus := by cases m <;> rfl

theorem note_eof : (c.note m).eof = true ↔ c.eof = true ∨ m = .eof ∨ m = .close := by cases m <;> simp [note]

theorem note_closed : (c.note m).closed = true ↔ c.closed = true ∨ m = .close := by cases m <;> simp [note]

end Messages

section Looking

variable {seen : List Message} {gone : Prop} {handed : Bytes} {c : Channel}

-- What a channel remembers of the messages that were looked at. `gone` says that their end was met.
structure Reads (seen : List Message) (gone : Prop) (handed : Bytes) (c : Channel) : Prop where
  output : handed ++ c.pending = seen.flatMap Message.bytes
  status : c.exitStatus = lastStatus seen
  eof_iff : c.eof = true ↔ .eof ∈ seen ∨ c.closed = true
  closed_iff : c.closed = true ↔ .close ∈ seen ∨ gone

theorem Reads.set_inbox (reads : Reads seen gone handed c) (ms : List Message) :
    Reads seen gone handed { c with inbox := ms } :=
  ⟨reads.output, reads.status, reads.eof_iff, reads.closed_iff⟩

def Waits (c : Channel) : Prop := c.pending = [] ∧ c.eof = false

def look (c : Channel) (m : Message) : Channel := { c.note m with pending := (output m).1 ++ (output m).2 }

@[simp] theorem look_ended (c : Channel) (m : Message) : (c.look m).ended = c.ended := note_ended c m

theorem waits_iff (c : Channel) : Waits c ↔ ¬ (!c.pending.isEmpty || c.eof) = true := by
  cases given : c.pending with
  | nil => simp [Waits, given]
  | cons b rest => simp [Waits, given]

theorem fill_rests (rests : ¬ Waits c) (ms : List Message) : c.fill ms = { c with inbox := ms } := by
  rw [waits_iff, not_not] at rests
  cases ms with
  | nil => rw [fill, if_pos rests]
  | cons m rest => rw [fill, if_pos rests]

theorem fill_ends (waits : Waits c) :
    c.fill [] = if c.ended then { c with inbox := [], eof := true, closed := true } else { c with inbox := [] } := by
  rw [fill, if_neg ((waits_iff c).mp waits)]

theorem fill_looks (waits : Waits c) (m : Message) (rest : List Message) :
    c.fill (m :: rest) = (c.look m).fill rest := by
  rw [fill, if_neg ((waits_iff c).mp waits)]
  rfl

theorem Reads.look (reads : Reads seen gone handed c) (idle : c.pending = []) (m : Message) :
    Reads (seen ++ [m]) gone handed (c.look m) where
  output := by
    have before := reads.output
    rw [idle, List.append_nil] at before
    rw [Channel.look, output_merged, before, List.flatMap_append, List.flatMap_singleton]
  status := by
    show (c.note m).exitStatus = _
    rw [note_status, lastStatus_append, reads.status]
  eof_iff := by
    show (c.note m).eof = true ↔ _ ∨ (c.note m).closed = true
    rw [note_eof, note_closed, reads.eof_iff]
    simp only [List.mem_append, List.mem_singleton, eq_comm (a := m)]
    tauto
  closed_iff := by
    show (c.note m).closed = true ↔ _
    rw [note_closed, reads.closed_iff]
    simp only [List.mem_append, List.mem_singleton, eq_comm (a := m)]
    tauto

theorem Reads.fill (reads : Reads seen gone handed c) (ms : List Message) :
    ∃ looked gone', ms = looked ++ (c.fill ms).inbox ∧ Reads (seen ++ looked) gone' handed (c.fill ms) ∧
      (c.fill ms).ended = c.ended ∧ (gone' → gone ∨ c.ended = true ∧ (c.fill ms).inbox = []) ∧
      (Waits (c.fill ms) → (c.fill ms).inbox = [] ∧ c.ended = false) := by
  by_cases waits : Waits c
  · induction ms generalizing c seen with
    | nil =>
        rw [fill_ends waits]
        split
        next ended =>
          refine ⟨[], True, rfl, ?_, rfl, fun _ => .inr ⟨ended, rfl⟩, fun waits => by cases waits.2⟩
          rw [List.append_nil]
          exact ⟨reads.output, reads.status, by simp, by simp⟩
        next stays =>
          refine ⟨[], gone, rfl, ?_, rfl, .inl, fun _ => ⟨rfl, by simpa using stays⟩⟩
          rw [List.append_nil]
          exact reads.set_inbox []
    | cons m rest ih =>
        rw [fill_looks waits]
        have looks := reads.look waits.1 m
        by_cases again : Waits (c.look m)
        · obtain ⟨looked, gone', split, later, ended, met, waited⟩ := ih looks again
          rw [look_ended] at ended met waited
          refine ⟨m :: looked, gone', congrArg (List.cons m) split, ?_, ended, met, waited⟩
          rwa [List.append_cons]
        · rw [fill_rests again]
          exact ⟨[m], gone, rfl, looks.set_inbox rest, look_ended c m, .inl, fun waits => absurd waits again⟩
  · rw [fill_rests waits]
    refine ⟨[], gone, rfl, ?_, rfl, .inl, fun again => absurd again waits⟩
    rw [List.append_nil]
    exact reads.set_inbox ms

theorem receive_waits (waits : Waits (c.fill c.inbox)) (limit : Nat) : c.receive limit = (none, c.fill c.inbox) := by
  simp [receive, waits.1, waits.2]

theorem receive_gives (rests : ¬ Waits (c.fill c.inbox)) (limit : Nat) :
    c.receive limit = (some ((c.fill c.inbox).pending.take limit),
      { c.fill c.inbox with pending := (c.fill c.inbox).pending.drop limit }) := by
  have given : ¬ ((c.fill c.inbox).pending.isEmpty && !(c.fill c.inbox).eof) = true := by
    simpa [Waits] using rests
  rw [receive]
  dsimp only
  rw [if_neg given]

end Looking

section Draining

variable {c : Channel}

theorem outputs_main (ms : List Message) : (ms.map fun m => (output m).1).flatten = mainBytes ms := by
  induction ms with
  | nil => rfl
  | cons m rest ih =>
      rw [List.map_cons, List.flatten_cons, ih, output_eq, mainBytes, mainBytes, List.filter_cons]
      cases m.isError with
      | true => rfl
      | false => rfl

theorem outputs_error (ms : List Message) : (ms.map fun m => (output m).2).flatten = errorBytes ms := by
  induction ms with
  | nil => rfl
  | cons m rest ih =>
      rw [List.map_cons, List.flatten_cons, ih, output_eq, errorBytes, errorBytes, List.filter_cons]
      cases m.isError with
      | true => rfl
      | false => rfl

theorem lastStatus_cons (m : Message) (rest : List Message) :
    lastStatus (m :: rest) = (lastStatus rest).or m.status? := by
  rw [← List.singleton_append, lastStatus, List.filterMap_append, List.getLast?_append, lastStatus]
  cases given : m.status? with
  | none => simp [given]
  | some n => simp [given]

-- Nothing comes after the message that closes a channel.
def Closing (ms : List Message) : Prop := ∀ front back, ms = front ++ .close :: back → back = []

theorem drainFrom_all {ms : List Message} (closing : Closing ms) (quiet : c.closed = true → ms = [])
    (out err : List Bytes) :
    ∃ c', drainFrom c ms out err =
        (c', (ms.map fun m => (output m).1).reverse ++ out, (ms.map fun m => (output m).2).reverse ++ err) ∧
      c'.exitStatus = (lastStatus ms).or c.exitStatus ∧
      (c'.closed = true ↔ c.closed = true ∨ .close ∈ ms ∨ c.ended = true) := by
  induction ms generalizing c out err with
  | nil =>
      refine ⟨_, rfl, ?_, ?_⟩
      · split <;> rfl
      · split
        next gone => simp_all
        next stays => simp_all
  | cons m rest ih =>
      have listens : ¬ c.closed = true := fun closed => by cases quiet closed
      have later : Closing rest := fun front back split => closing (m :: front) back (congrArg (List.cons m) split)
      have quiet' : (c.note m).closed = true → rest = [] := by
        rw [note_closed]
        rintro (closed | rfl)
        · exact absurd closed listens
        · exact closing [] rest rfl
      obtain ⟨c', ran, status, closed⟩ := ih later quiet' ((output m).1 :: out) ((output m).2 :: err)
      refine ⟨c', ?_, ?_, ?_⟩
      · rw [drainFrom, if_neg listens, ran]
        simp
      · rw [status, note_status, lastStatus_cons, Option.or_assoc]
      · rw [closed, note_closed, note_ended, List.mem_cons, eq_comm (a := m)]
        tauto

theorem finish_all (closing : Closing c.inbox) (quiet : c.closed = true → c.inbox = [])
    (finished : c.closed = true ∨ .close ∈ c.inbox ∨ c.ended = true) :
    (c.finish).1 =
      some ⟨(lastStatus c.inbox).or c.exitStatus, c.pending ++ mainBytes c.inbox, errorBytes c.inbox⟩ := by
  obtain ⟨c', ran, status, closed⟩ := drainFrom_all (c := { c with pending := [] }) closing quiet [c.pending] []
  have ended : c'.closed = true := closed.mpr finished
  simp only [finish, ran, ended, if_true, status]
  simp [outputs_main, outputs_error]

end Draining

section Turns

inductive Turn where
  | arrives (m : Message)
  | ends
  | asks (limit : Nat)
deriving DecidableEq

def Turn.message? : Turn → Option Message
  | .arrives m => some m
  | _ => none

def turn (c : Channel) : Turn → List Bytes × Channel
  | .arrives m => ([], c.deliver [m])
  | .ends => ([], { c with ended := true })
  | .asks limit => ((c.receive limit).1.toList, (c.receive limit).2)

def turns (ts : List Turn) : List Bytes × Channel :=
  ts.foldl (fun done t => (done.1 ++ (done.2.turn t).1, (done.2.turn t).2)) ([], fresh)

def arrived (ts : List Turn) : List Message := ts.filterMap Turn.message?

def Orderly (ts : List Turn) : Prop :=
  ts.Pairwise fun t later => t = .ends ∨ t = .arrives .close → later.message? = none

instance (ts : List Turn) : Decidable (Orderly ts) := inferInstanceAs (Decidable (List.Pairwise _ ts))

def Over (ts : List Turn) : Prop := .ends ∈ ts ∨ .close ∈ arrived ts

theorem arrived_append (ts : List Turn) (t : Turn) : arrived (ts ++ [t]) = arrived ts ++ t.message?.toList := by
  cases given : t.message? with
  | none => simp [arrived, given]
  | some m => simp [arrived, given]

theorem Orderly.closing {ts : List Turn} (orderly : Orderly ts) : Closing (arrived ts) := by
  intro front back split
  obtain ⟨before, rest, rfl, -, later⟩ := List.filterMap_eq_append_iff.mp split
  obtain ⟨skipped, t, after, rfl, -, closes, rfl⟩ := List.filterMap_eq_cons_iff.mp later
  have closed : t = .arrives .close := by
    cases t with
    | arrives m => cases closes; rfl
    | ends => cases closes
    | asks limit => cases closes
  have behind := (List.pairwise_append.mp (List.pairwise_append.mp orderly).2.1).2.1
  exact List.filterMap_eq_nil_iff.mpr fun later member => (List.pairwise_cons.mp behind).1 later member (.inr closed)

theorem Orderly.init {ts : List Turn} {t : Turn} (orderly : Orderly (ts ++ [t])) : Orderly ts :=
  (List.pairwise_append.mp orderly).1

structure Stands (ts : List Turn) (seen : List Message) (handed : Bytes) (c : Channel) : Prop where
  arrived : arrived ts = seen ++ c.inbox
  ended_iff : c.ended = true ↔ .ends ∈ ts
  reads : ∃ gone, Reads seen gone handed c ∧ (gone → .ends ∈ ts ∧ c.inbox = [])

variable {ts : List Turn} {seen : List Message} {handed : Bytes} {c : Channel}

theorem stands_fresh : Stands [] [] [] fresh :=
  ⟨rfl, by simp [fresh], False, ⟨rfl, rfl, by simp [fresh], by simp [fresh]⟩, False.elim⟩

theorem Stands.arrives (stands : Stands ts seen handed c) {m : Message} (orderly : Orderly (ts ++ [.arrives m])) :
    Stands (ts ++ [.arrives m]) seen handed (c.deliver [m]) := by
  obtain ⟨gone, reads, met⟩ := stands.reads
  refine ⟨?_, ?_, gone, reads.set_inbox _, fun missed => ?_⟩
  · rw [arrived_append, stands.arrived, List.append_assoc]
    rfl
  · rw [deliver, stands.ended_iff]
    simp
  · cases (List.pairwise_append.mp orderly).2.2 _ (met missed).1 _ (List.mem_singleton.mpr rfl) (.inl rfl)

theorem Stands.ends (stands : Stands ts seen handed c) :
    Stands (ts ++ [.ends]) seen handed { c with ended := true } := by
  obtain ⟨gone, reads, met⟩ := stands.reads
  refine ⟨?_, by simp, gone, ⟨reads.output, reads.status, reads.eof_iff, reads.closed_iff⟩, fun missed => ?_⟩
  · rw [arrived_append, stands.arrived]
    exact List.append_nil _
  · exact ⟨by simp, (met missed).2⟩

theorem Stands.asks (stands : Stands ts seen handed c) (limit : Nat) :
    ∃ looked, Stands (ts ++ [.asks limit]) (seen ++ looked) (handed ++ (c.receive limit).1.getD [])
      (c.receive limit).2 := by
  obtain ⟨gone, reads, met⟩ := stands.reads
  obtain ⟨looked, gone', split, later, ended, met', -⟩ := reads.fill c.inbox
  have same : Channel.arrived (ts ++ [.asks limit]) = seen ++ looked ++ (c.fill c.inbox).inbox := by
    rw [arrived_append, stands.arrived, List.append_assoc seen looked, ← split]
    exact List.append_nil _
  have ended_iff : c.ended = true ↔ .ends ∈ ts ++ [Turn.asks limit] := by
    rw [stands.ended_iff]
    simp
  have goes : gone' → .ends ∈ ts ++ [Turn.asks limit] ∧ (c.fill c.inbox).inbox = [] := by
    intro missed
    obtain old | ⟨ended, empty⟩ := met' missed
    · exact ⟨List.mem_append_left _ (met old).1, (List.append_eq_nil_iff.mp (split.symm.trans (met old).2)).2⟩
    · exact ⟨ended_iff.mp ended, empty⟩
  refine ⟨looked, ?_⟩
  by_cases waits : Waits (c.fill c.inbox)
  · rw [receive_waits waits]
    refine ⟨same, by rw [ended, ended_iff], gone', ?_, goes⟩
    rwa [Option.getD_none, List.append_nil]
  · rw [receive_gives waits]
    refine ⟨same, by rw [ended, ended_iff], gone', ⟨?_, later.status, later.eof_iff, later.closed_iff⟩, goes⟩
    rw [← later.output, Option.getD_some, List.append_assoc, List.take_append_drop]

theorem turns_append (ts : List Turn) (t : Turn) :
    turns (ts ++ [t]) = ((turns ts).1 ++ ((turns ts).2.turn t).1, ((turns ts).2.turn t).2) := by
  rw [turns, List.foldl_append]
  rfl

theorem stands_turns (orderly : Orderly ts) : ∃ seen, Stands ts seen (turns ts).1.flatten (turns ts).2 := by
  induction ts using List.reverseRecOn with
  | nil => exact ⟨[], stands_fresh⟩
  | append_singleton ts t ih =>
      obtain ⟨seen, stands⟩ := ih orderly.init
      rw [turns_append, List.flatten_append]
      cases t with
      | arrives m => exact ⟨seen, by simpa [turn] using stands.arrives orderly⟩
      | ends => exact ⟨seen, by simpa [turn] using stands.ends⟩
      | asks limit =>
          obtain ⟨looked, later⟩ := stands.asks limit
          refine ⟨seen ++ looked, ?_⟩
          have pieces : ((turns ts).2.receive limit).1.toList.flatten = ((turns ts).2.receive limit).1.getD [] := by
            cases ((turns ts).2.receive limit).1 with
            | none => rfl
            | some piece => simp
          rw [turn, pieces]
          exact later

def Ended (ts : List Turn) (seen : List Message) (c : Channel) : Prop :=
  .eof ∈ seen ∨ .close ∈ seen ∨ .ends ∈ ts ∧ c.inbox = []

theorem Stands.eof (stands : Stands ts seen handed c) (eof : c.eof = true) : Ended ts seen c := by
  obtain ⟨gone, reads, met⟩ := stands.reads
  obtain announced | closed := reads.eof_iff.mp eof
  · exact .inl announced
  · obtain closes | missed := reads.closed_iff.mp closed
    · exact .inr (.inl closes)
    · exact .inr (.inr (met missed))

theorem Stands.piece (stands : Stands ts seen handed c) {limit : Nat} {piece : Bytes} {c' : Channel}
    (gives : c.receive limit = (some piece, c')) :
    piece.length ≤ limit ∧ (0 < limit → piece = [] →
      c'.pending = [] ∧ ∃ looked, Channel.arrived ts = looked ++ c'.inbox ∧ Ended ts looked c') := by
  obtain ⟨looked, later⟩ := stands.asks limit
  rw [gives] at later
  by_cases waits : Waits (c.fill c.inbox)
  · rw [receive_waits waits] at gives
    cases gives
  · rw [receive_gives waits] at gives
    cases gives
    refine ⟨List.length_take_le _ _, fun positive empty => ?_⟩
    have idle : (c.fill c.inbox).pending = [] := by
      obtain none | short := List.take_eq_nil_iff.mp empty
      · omega
      · exact short
    have eof : (c.fill c.inbox).eof = true := by simpa [Waits, idle] using waits
    have same : Channel.arrived (ts ++ [.asks limit]) = Channel.arrived ts :=
      (arrived_append ts (.asks limit)).trans (List.append_nil _)
    refine ⟨by rw [idle, List.drop_nil], seen ++ looked, same.symm.trans later.arrived, ?_⟩
    simpa [Ended] using later.eof eof

theorem Stands.answers (stands : Stands ts seen handed c) (finished : Over ts) (limit : Nat) :
    ∃ piece, (c.receive limit).1 = some piece := by
  by_cases waits : Waits (c.fill c.inbox)
  · obtain ⟨gone, reads, met⟩ := stands.reads
    obtain ⟨looked, gone', split, later, ended, -, waited⟩ := reads.fill c.inbox
    obtain ⟨empty, stays⟩ := waited waits
    obtain ends | closes := finished
    · rw [stands.ended_iff.mpr ends] at stays
      cases stays
    · rw [stands.arrived, split, empty, List.append_nil] at closes
      have eof := later.eof_iff.mpr (.inr (later.closed_iff.mpr (.inl closes)))
      rw [waits.2] at eof
      cases eof
  · rw [receive_gives waits]
    exact ⟨_, rfl⟩

theorem Stands.finishes (stands : Stands ts seen handed c) (orderly : Orderly ts) (finished : Over ts) :
    c.finish.1 = some ⟨lastStatus (Channel.arrived ts), c.pending ++ mainBytes c.inbox, errorBytes c.inbox⟩ := by
  obtain ⟨gone, reads, met⟩ := stands.reads
  have closing := orderly.closing
  rw [stands.arrived] at closing
  have quiet : c.closed = true → c.inbox = [] := by
    intro closed
    obtain closes | missed := reads.closed_iff.mp closed
    · obtain ⟨front, back, rfl⟩ := List.append_of_mem closes
      exact (List.append_eq_nil_iff.mp (closing front (back ++ c.inbox) (by simp))).2
    · exact (met missed).2
  have later : Closing c.inbox := fun front back split =>
    closing (seen ++ front) back (by rw [split, List.append_assoc])
  have ended : c.closed = true ∨ .close ∈ c.inbox ∨ c.ended = true := by
    obtain ends | closes := finished
    · exact .inr (.inr (stands.ended_iff.mpr ends))
    · rw [stands.arrived, List.mem_append] at closes
      obtain before | waiting := closes
      · exact .inl (reads.closed_iff.mpr (.inl before))
      · exact .inr (.inl waiting)
  have status : lastStatus (seen ++ c.inbox) = (lastStatus c.inbox).or (lastStatus seen) := by
    rw [lastStatus, List.filterMap_append, List.getLast?_append]
    rfl
  rw [finish_all later quiet ended, stands.arrived, status, reads.status]

theorem output_follows_arrivals (ts : List Turn) (orderly : Orderly ts) :
    ∃ seen, arrived ts = seen ++ (turns ts).2.inbox ∧
      (turns ts).1.flatten ++ (turns ts).2.pending = seen.flatMap Message.bytes ∧
      (∀ limit piece c', (turns ts).2.receive limit = (some piece, c') → piece.length ≤ limit ∧
        (0 < limit → piece = [] →
          c'.pending = [] ∧ ∃ looked, arrived ts = looked ++ c'.inbox ∧ Ended ts looked c')) ∧
      (Over ts → (∀ limit, ∃ piece, ((turns ts).2.receive limit).1 = some piece) ∧
        ∃ exit, (turns ts).2.finish.1 = some exit ∧
          exit.stdout = (turns ts).2.pending ++ mainBytes (turns ts).2.inbox ∧
          exit.stderr = errorBytes (turns ts).2.inbox ∧ exit.exitStatus = lastStatus (arrived ts)) := by
  obtain ⟨seen, stands⟩ := stands_turns orderly
  obtain ⟨gone, reads, -⟩ := stands.reads
  refine ⟨seen, stands.arrived, reads.output, fun limit piece c' gives => stands.piece gives, fun finished => ?_⟩
  exact ⟨stands.answers finished, _, stands.finishes orderly finished, rfl, rfl, rfl⟩

def listening : List Turn :=
  [.arrives (.data [97, 98]), .asks 1, .arrives (.extended 1 [99]), .arrives .eof, .asks 8, .asks 8,
    .arrives (.exitStatus 3), .arrives (.data [100]), .arrives (.extended 1 [101]), .arrives (.extended 7 [102]),
    .arrives .close]

theorem listening_taken_up :
    Orderly listening ∧ (turns listening).1 = [[97], [98], [99]] ∧
      ∃ exit, (turns listening).2.finish.1 = some exit ∧ exit.stdout = [100, 102] ∧ exit.stderr = [101] ∧
        exit.exitStatus = some 3 := by
  have orderly : Orderly listening := by decide
  obtain ⟨seen, -, -, -, taken⟩ := output_follows_arrivals listening orderly
  obtain ⟨-, exit, finished, out, err, status⟩ := taken (.inr (by decide))
  exact ⟨orderly, by decide, exit, finished, out.trans (by decide), err.trans (by decide), status.trans (by decide)⟩

end Turns

end Client.Channel
end RemoteExec

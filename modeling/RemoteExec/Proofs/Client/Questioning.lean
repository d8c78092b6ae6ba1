import RemoteExec.Client.Authentication
import RemoteExec.Proofs.Session.Steps
import RemoteExec.ScriptedServer.Basic

namespace RemoteExec

theorem Text.contains_iff (needle hay : List Char) : Text.contains needle hay = true ↔ needle <:+: hay := by
  induction hay with
  | nil => simp [contains, List.isEmpty_iff]
  | cons c rest ih =>
      rw [contains, Bool.or_eq_true, List.isPrefixOf_iff_prefix, ih, List.infix_cons_iff]

def Asks (prompt : String) (expected : Option String) : Prop :=
  (expected.getD "password").lowercase.toList <:+: prompt.lowercase.toList

instance (prompt : String) (expected : Option String) : Decidable (Asks prompt expected) :=
  decidable_of_iff (asksPassword prompt expected = true) (Text.contains_iff _ _)

namespace Authentication

variable {π : Type}

abbrev Exchange := AuthRequest × Except String Verdict

inductive Exchanged (respond : Responder π) : π → List Exchange → π → Prop
  | nil (p : π) : Exchanged respond p [] p
  | cons {p q last : π} {request : AuthRequest} {outcome : Except String Verdict} {rest : List Exchange}
      (responds : respond request p = (outcome, q)) (later : Exchanged respond q rest last) :
      Exchanged respond p ((request, outcome) :: rest) last

-- A request, rounds of questions with their answers, and what the server says in the end.
def dialogue (expected : Option String) (password : String) (request : AuthRequest) :
    List (List String) → Except String Verdict → List Exchange
  | [], last => [(request, last)]
  | prompts :: rest, last =>
    (request, .ok (.questions prompts)) ::
      dialogue expected password (.answers (answersTo expected password prompts)) rest last

@[simp] theorem run_tell (e : Event) (l : Login π) : tell e l = (.ok (), { l with log := l.log ++ [e] }) := rfl

@[simp] theorem run_ask (respond : Responder π) (request : AuthRequest) (l : Login π) :
    ask respond request l = ((respond request l.server).1.mapError Failure.authentication,
      { l with server := (respond request l.server).2, sent := l.sent ++ [request] }) := rfl

section Rounds

variable (respond : Responder π) (r : Request) (password : String)

def inquire (rounds : Nat) (request : AuthRequest) : Attempt π Bool := do
  answerRounds respond r password rounds (← ask respond request)

def report (left : Nat) : Except String Verdict → Except Failure Bool
  | .error why => .error (.authentication why)
  | .ok .success => .ok (0 < left)
  | .ok _ => .ok false

-- Further questions are the end only if no round is left for them.
def Final (left : Nat) (last : Except String Verdict) : Prop := ∀ prompts, last = .ok (.questions prompts) → left = 0

variable {respond r password}

theorem answerRounds_ends {left : Nat} {verdict : Verdict} (final : Final left (.ok verdict)) (l : Login π) :
    ∃ log, answerRounds respond r password left verdict l = (report left (.ok verdict), { l with log := log }) := by
  cases left with
  | zero =>
      refine ⟨l.log ++ [⟨.warn, "Giving up keyboard-interactive after " ++ toString maxRounds ++ " rounds"⟩], ?_⟩
      cases verdict with
      | success => rfl
      | failure => rfl
      | questions prompts => rfl
  | succ left =>
      cases verdict with
      | success => exact ⟨l.log, by simp [answerRounds, report]⟩
      | failure => exact ⟨l.log, rfl⟩
      | questions prompts => cases final prompts rfl

theorem inquire_ends {left : Nat} {request : AuthRequest} {l : Login π} {last : Except String Verdict} {q : π}
    (responds : respond request l.server = (last, q)) (final : Final left last) :
    ∃ log, inquire respond r password left request l = (report left last, ⟨q, l.sent ++ [request], log⟩) := by
  rw [inquire, run_bind, run_ask, responds]
  cases last with
  | error why => exact ⟨l.log, rfl⟩
  | ok verdict => exact answerRounds_ends final _

theorem inquire_continues (left : Nat) {request : AuthRequest} {l : Login π} {prompts : List String} {q : π}
    (responds : respond request l.server = (.ok (.questions prompts), q)) :
    ∃ log, inquire respond r password (left + 1) request l =
      inquire respond r password left (.answers (answersTo r.passwordPrompt password prompts))
        ⟨q, l.sent ++ [request], log⟩ := by
  refine ⟨l.log ++ [r.detail ("Keyboard-interactive round with " ++ toString prompts.length ++ " prompts")], ?_⟩
  rw [inquire, run_bind, run_ask, responds]
  rfl

theorem inquire_dialogue {rounds : List (List String)} {left : Nat} {request : AuthRequest} {l : Login π}
    {last : Except String Verdict} {q : π} (final : Final left last)
    (exchanged : Exchanged respond l.server (dialogue r.passwordPrompt password request rounds last) q) :
    ∃ log, inquire respond r password (rounds.length + left) request l =
      (report left last,
        ⟨q, l.sent ++ (dialogue r.passwordPrompt password request rounds last).map Prod.fst, log⟩) := by
  induction rounds generalizing request l with
  | nil =>
      cases exchanged with
      | cons responds later =>
          cases later
          rw [List.length_nil, Nat.zero_add]
          exact inquire_ends responds final
  | cons prompts rest ih =>
      cases exchanged with
      | cons responds later =>
          obtain ⟨between, continues⟩ := inquire_continues (rest.length + left) responds
          obtain ⟨log, ends⟩ := ih (l := ⟨_, l.sent ++ [request], between⟩) later
          refine ⟨log, ?_⟩
          rw [List.length_cons, Nat.add_right_comm, continues, ends, dialogue, List.map_cons, List.append_assoc]
          rfl

theorem dialogue_exists (respond : Responder π) (r : Request) (password : String) (limit : Nat) (request : AuthRequest)
    (p : π) :
    ∃ rounds last q, rounds.length ≤ limit ∧ Final (limit - rounds.length) last ∧
      Exchanged respond p (dialogue r.passwordPrompt password request rounds last) q := by
  induction limit generalizing request p with
  | zero => exact ⟨[], _, _, Nat.le_refl 0, fun _ _ => rfl, .cons rfl (.nil _)⟩
  | succ limit ih =>
      cases responds : respond request p with
      | mk outcome q =>
          by_cases more : ∃ prompts, outcome = .ok (.questions prompts)
          · obtain ⟨prompts, rfl⟩ := more
            obtain ⟨rounds, last, end_, short, final, exchanged⟩ :=
              ih (.answers (answersTo r.passwordPrompt password prompts)) q
            refine ⟨prompts :: rounds, last, end_, Nat.succ_le_succ short, ?_, .cons responds exchanged⟩
            rwa [List.length_cons, Nat.add_sub_add_right]
          · exact ⟨[], outcome, q, Nat.zero_le _, fun prompts same => absurd ⟨prompts, same⟩ more, .cons responds (.nil q)⟩

end Rounds

section Verdicts

variable (respond : Responder π) (r : Request) (password : String)

def conversation (rounds : List (List String)) (last : Except String Verdict) : List Exchange :=
  dialogue r.passwordPrompt password (.interactive r.user) rounds last

def Reports (l : Login π) : Prop :=
  ∀ rounds verdict q, rounds.length ≤ maxRounds →
    Exchanged respond l.server (conversation r password rounds (.ok verdict)) q →
    (verdict = .success → (interactive respond r password l).1 = .ok true) ∧
    (verdict = .failure → (interactive respond r password l).1 = .ok false) ∧
    ((∃ prompts, verdict = .questions prompts) → rounds.length = maxRounds →
      (interactive respond r password l).1 = .ok false)

def AcceptedLast (l : Login π) : Prop :=
  ∃ rounds q, rounds.length = maxRounds ∧ Exchanged respond l.server (conversation r password rounds (.ok .success)) q

variable {respond r password} {l : Login π}

theorem interactive_conversation {rounds : List (List String)} {last : Except String Verdict} {q : π}
    (short : rounds.length ≤ maxRounds) (final : Final (maxRounds - rounds.length) last)
    (exchanged : Exchanged respond l.server (conversation r password rounds last) q) :
    ∃ log, interactive respond r password l =
      (report (maxRounds - rounds.length) last, ⟨q, l.sent ++ (conversation r password rounds last).map Prod.fst, log⟩) := by
  obtain ⟨log, ran⟩ := inquire_dialogue final exchanged
  rw [Nat.add_sub_cancel' short] at ran
  exact ⟨log, ran⟩

theorem reports_iff : Reports respond r password l ↔ ¬ AcceptedLast respond r password l := by
  constructor
  · rintro reports ⟨rounds, q, last, exchanged⟩
    obtain ⟨log, ran⟩ := interactive_conversation (Nat.le_of_eq last) (fun _ same => by cases same) exchanged
    have promised := (reports rounds .success q (Nat.le_of_eq last) exchanged).1 rfl
    rw [ran, last] at promised
    cases promised
  · intro spared rounds verdict q short exchanged
    refine ⟨?_, ?_, ?_⟩
    · rintro rfl
      have early : rounds.length ≠ maxRounds := fun last => spared ⟨rounds, q, last, exchanged⟩
      have left : 0 < maxRounds - rounds.length := by omega
      obtain ⟨log, ran⟩ := interactive_conversation short (fun _ same => by cases same) exchanged
      rw [ran]
      simp [report, left]
    · rintro rfl
      obtain ⟨log, ran⟩ := interactive_conversation short (fun _ same => by cases same) exchanged
      rw [ran]
      rfl
    · rintro ⟨prompts, rfl⟩ last
      obtain ⟨log, ran⟩ := interactive_conversation short (fun _ _ => by rw [last, Nat.sub_self]) exchanged
      rw [ran]
      rfl

theorem answersTo_asks (expected : Option String) (password : String) (prompts : List String) (i : Nat) (prompt : String)
    (here : prompts[i]? = some prompt) :
    (answersTo expected password prompts)[i]? = some (if Asks prompt expected then password else "") := by
  have asks : asksPassword prompt expected = true ↔ Asks prompt expected := Text.contains_iff _ _
  rw [answersTo, List.getElem?_map, here, Option.map_some]
  by_cases asked : Asks prompt expected
  · rw [if_pos asked, if_pos (asks.mpr asked)]
  · rw [if_neg asked, if_neg fun found => asked (asks.mp found)]

theorem acceptance_reported_iff (respond : Responder π) (r : Request) (password : String) (l : Login π) :
    (Reports respond r password l ↔ ¬ AcceptedLast respond r password l) ∧
    (∃ rounds last q, rounds.length ≤ maxRounds ∧ Exchanged respond l.server (conversation r password rounds last) q ∧
      (interactive respond r password l).2.server = q ∧
      (interactive respond r password l).2.sent = l.sent ++ (conversation r password rounds last).map Prod.fst ∧
      ((interactive respond r password l).1 = .ok true ↔ last = .ok .success ∧ rounds.length < maxRounds) ∧
      ∀ failure, (interactive respond r password l).1 = .error failure ↔
        ∃ why, last = .error why ∧ failure = .authentication why) ∧
    ∀ prompts, (answersTo r.passwordPrompt password prompts).length = prompts.length ∧
      ∀ (i : Nat) prompt, prompts[i]? = some prompt →
        (answersTo r.passwordPrompt password prompts)[i]? =
          some (if Asks prompt r.passwordPrompt then password else "") := by
  refine ⟨reports_iff, ?_, fun prompts => ⟨List.length_map _, answersTo_asks _ _ _⟩⟩
  obtain ⟨rounds, last, q, short, final, exchanged⟩ :=
    dialogue_exists respond r password maxRounds (.interactive r.user) l.server
  obtain ⟨log, ran⟩ := interactive_conversation short final exchanged
  refine ⟨rounds, last, q, short, exchanged, by rw [ran], by rw [ran], ?_, ?_⟩
  · rw [ran]
    cases last with
    | error why => simp [report]
    | ok verdict =>
        cases verdict with
        | success => simp only [report, Except.ok.injEq, decide_eq_true_eq, true_and, Nat.sub_pos_iff_lt]
        | failure => simp [report]
        | questions prompts => simp [report]
  · intro failure
    rw [ran]
    cases last with
    | error why => simp [report, eq_comm]
    | ok verdict =>
        cases verdict with
        | success => simp [report]
        | failure => simp [report]
        | questions prompts => simp [report]

end Verdicts

def fiveRounds : List (List String) := [["Password 0"], ["Password 1"], ["Password 2"], ["Password 3"], ["Password 4"]]

def patient : ScriptedServer.State :=
  { ScriptedServer.State.initial ⟨[], none, [], some ⟨fiveRounds, true⟩, [], [], []⟩ ⟨[]⟩ [] with links := [⟨0, []⟩] }

theorem last_acceptance_unreported :
    (interactive (ScriptedServer.authenticate 0) default "pw" ⟨patient, [], []⟩).1 = .ok false ∧
    ¬ Reports (ScriptedServer.authenticate 0) default "pw" ⟨patient, [], []⟩ := by
  have refused : (interactive (ScriptedServer.authenticate 0) default "pw" ⟨patient, [], []⟩).1 = .ok false := rfl
  refine ⟨refused, fun reports => ?_⟩
  have exchanged : ∃ q, Exchanged (ScriptedServer.authenticate 0) patient
      (conversation default "pw" fiveRounds (.ok .success)) q :=
    ⟨_, .cons rfl (.cons rfl (.cons rfl (.cons rfl (.cons rfl (.cons rfl (.nil _))))))⟩
  obtain ⟨q, exchanged⟩ := exchanged
  have promised := (reports fiveRounds .success q (by decide) exchanged).1 rfl
  rw [refused] at promised
  cases promised

end Authentication
end RemoteExec

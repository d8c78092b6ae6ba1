import RemoteExec.Options

namespace RemoteExec

def Fails {α : Type} (among : Failure → Prop) (outcome : Except Failure α) : Prop := ∀ e, outcome = .error e → among e

namespace Fails

variable {α β : Type} {among wider : Failure → Prop}

theorem ok (v : α) : Fails among (.ok v) := by
  intro e failed
  cases failed

theorem error {e : Failure} (named : among e) : Fails among (.error e : Except Failure α) := by
  intro other failed
  cases failed
  exact named

theorem bind {first : Except Failure α} {next : α → Except Failure β} (fails : Fails among first)
    (later : ∀ v, Fails among (next v)) : Fails among (first >>= next) := by
  cases first with
  | error e => exact error (fails e rfl)
  | ok v => exact later v

theorem map {outcome : Except Failure α} (fails : Fails among outcome) (f : α → β) : Fails among (outcome.map f) := by
  cases outcome with
  | error e => exact error (fails e rfl)
  | ok v => exact ok (f v)

theorem weaken {outcome : Except Failure α} (fails : Fails among outcome) (names : ∀ e, among e → wider e) :
    Fails wider outcome := by
  intro e failed
  exact names e (fails e failed)

end Fails

namespace Options

def Names (name : String) (e : Failure) : Prop := ∃ rest, e = .config ("option " ++ name ++ rest)

inductive Refusal : Failure → Prop where
  | missing : Refusal (.config "remote_addr is required")
  | entry (name rest : String) : Refusal (.config ("option " ++ name ++ rest))
  | port (rest : String) : Refusal (.config ("invalid port " ++ rest))
  | timeout (rest : String) : Refusal (.config ("invalid timeout " ++ rest))

theorem Names.refusal {name : String} (e : Failure) (names : Names name e) : Refusal e := by
  obtain ⟨rest, same⟩ := names
  rw [same]
  exact Refusal.entry name rest

theorem fails_named {α : Type} (name rest : String) :
    Fails (Names name) (.error (.config ("option " ++ name ++ rest)) : Except Failure α) := Fails.error ⟨rest, rfl⟩

variable (entries : Entries) (name : String)

theorem text?_fails : Fails (Names name) (text? entries name) := by
  unfold text?
  split
  next => exact Fails.ok none
  next => exact Fails.ok none
  next => exact Fails.ok _
  next => exact Fails.ok _
  next =>
    rw [String.append_assoc]
    exact fails_named name _

theorem switch?_fails : Fails (Names name) (switch? entries name) := by
  unfold switch?
  split
  next => exact Fails.ok none
  next => exact Fails.ok none
  next => exact Fails.ok _
  next => exact Fails.ok _
  next s _ =>
    by_cases yes : trueWords.contains s.trimBlanks.lowercase = true
    · rw [if_pos yes]
      exact Fails.ok _
    · rw [if_neg yes]
      by_cases no : falseWords.contains s.trimBlanks.lowercase = true
      · rw [if_pos no]
        exact Fails.ok _
      · rw [if_neg no, String.append_assoc, String.append_assoc]
        exact fails_named name _
  next =>
    rw [String.append_assoc]
    exact fails_named name _

theorem natural?_fails : Fails (Names name) (natural? entries name) := by
  unfold natural?
  split
  next => exact Fails.ok none
  next => exact Fails.ok none
  next => exact Fails.ok _
  next => exact fails_named name _
  next s _ =>
    by_cases empty : s.trimBlanks.isEmpty = true
    · rw [if_pos empty]
      exact Fails.ok none
    · rw [if_neg empty]
      split
      next => exact Fails.ok _
      next =>
        rw [String.append_assoc, String.append_assoc]
        exact fails_named name _
  next =>
    rw [String.append_assoc]
    exact fails_named name _

theorem number?_fails : Fails (Names name) (number? entries name) := by
  unfold number?
  split
  next => exact Fails.ok none
  next => exact Fails.ok none
  next => exact Fails.ok _
  next s _ =>
    by_cases empty : s.trimBlanks.isEmpty = true
    · rw [if_pos empty]
      exact Fails.ok none
    · rw [if_neg empty]
      split
      next => exact Fails.ok _
      next =>
        rw [String.append_assoc, String.append_assoc]
        exact fails_named name _
  next =>
    rw [String.append_assoc]
    exact fails_named name _

theorem portOf_fails (n? : Option Nat) : Fails Refusal (portOf n?) := by
  cases n? with
  | none => exact Fails.ok none
  | some n =>
      rw [portOf]
      by_cases fits : n < 65536
      · rw [if_pos fits]
        exact Fails.ok _
      · rw [if_neg fits]
        exact Fails.error (Refusal.port _)

theorem timeoutOf_fails (x? : Option Decimal.Binary64) : Fails Refusal (timeoutOf x?) := by
  cases x? with
  | none => exact Fails.ok none
  | some x =>
      rw [timeoutOf]
      cases Duration.ofSeconds x with
      | ok d => exact Fails.ok _
      | error why =>
          dsimp only
          rw [String.append_assoc, String.append_assoc]
          exact Fails.error (Refusal.timeout _)

theorem ofEntries_fails : Fails Refusal (ofEntries entries) := by
  have texts := fun name => (text?_fails entries name).weaken Names.refusal
  have switches := fun name => (switch?_fails entries name).weaken Names.refusal
  have naturals := fun name => (natural?_fails entries name).weaken Names.refusal
  unfold ofEntries
  refine Fails.bind (texts _) fun addr? => ?_
  cases addr? with
  | none => exact Fails.error Refusal.missing
  | some addr =>
      refine Fails.bind (texts _) fun user => ?_
      refine Fails.bind (naturals _) fun n? => Fails.bind (portOf_fails n?) fun port => ?_
      iterate 11 refine Fails.bind (texts _) fun _ => ?_
      iterate 5 refine Fails.bind (switches _) fun _ => ?_
      refine Fails.bind ((number?_fails entries _).weaken Names.refusal) fun x? => ?_
      refine Fails.bind (timeoutOf_fails x?) fun timeout => ?_
      exact Fails.bind (naturals _) fun level => Fails.ok _

def initial (text : String) : Option Char := text.toList.head?

theorem initial_append (start rest : String) : initial (start ++ rest) = (initial start).or (initial rest) := by
  rw [initial, String.toList_append, List.head?_append]
  rfl

-- A refusal begins with a small letter, which no complaint of the command line does.
theorem Refusal.begins {text : String} (refused : Refusal (.config text)) :
    ∃ c ∈ ['r', 'o', 'i'], initial text = some c := by
  generalize said : Failure.config text = e at refused
  cases refused with
  | missing =>
      rw [Failure.config.inj said]
      exact ⟨'r', by simp, rfl⟩
  | entry name rest =>
      rw [Failure.config.inj said, initial_append, initial_append]
      exact ⟨'o', by simp, rfl⟩
  | port rest =>
      rw [Failure.config.inj said, initial_append]
      exact ⟨'i', by simp, rfl⟩
  | timeout rest =>
      rw [Failure.config.inj said, initial_append]
      exact ⟨'i', by simp, rfl⟩

end Options
end RemoteExec

import Mathlib.Data.List.Induction
import Mathlib.Data.List.TakeWhile
import RemoteExec.HostKeys.Gate

namespace RemoteExec

def KeyPolicy.Consent (answer : String) : Prop :=
  ∃ word ends, answer = word ++ ends ∧ (∀ c ∈ ends.toList, c = '\r' ∨ c = '\n') ∧ word ∈ ["yes", "y", ""]

namespace KeyPolicy

def isLineEnd (c : Char) : Bool := c == '\r' || c == '\n'

theorem consents_iff (answer : String) : consents answer = true ↔ Consent answer := by
  have trimmed : consents answer = true ↔
      String.ofList (answer.toList.reverse.dropWhile isLineEnd).reverse ∈ ["yes", "y", ""] := by
    have same : isLineEnd = fun c => c == '\r' || c == '\n' := rfl
    simp only [consents, same, Bool.or_eq_true, beq_iff_eq, List.mem_cons, List.not_mem_nil, or_false, or_assoc]
  rw [trimmed]
  constructor
  · intro word
    refine ⟨_, String.ofList (answer.toList.reverse.takeWhile isLineEnd).reverse, ?_, ?_, word⟩
    · rw [← String.ofList_append, ← List.reverse_append, List.takeWhile_append_dropWhile, List.reverse_reverse,
        String.ofList_toList]
    · intro c member
      rw [String.toList_ofList, List.mem_reverse] at member
      simpa [isLineEnd] using List.mem_takeWhile_imp member
  · rintro ⟨word, ends, rfl, blank, consent⟩
    have dropped : (ends.toList.reverse ++ word.toList.reverse).dropWhile isLineEnd = word.toList.reverse := by
      rw [List.dropWhile_append_of_pos]
      · have words : word = "yes" ∨ word = "y" ∨ word = "" := by simpa using consent
        rcases words with rfl | rfl | rfl
        · rfl
        · rfl
        · rfl
      · intro c member
        simpa [isLineEnd] using blank c (List.mem_reverse.mp member)
    rw [String.toList_append, List.reverse_append, dropped, List.reverse_reverse, String.ofList_toList]
    exact consent

variable {policy : KeyPolicy} (key : HostKey) (operator : Prompter)

theorem verify_asks (checks : policy.checking = true) (strict : policy.autoAdd = false)
    (attended : policy.persistent = false) :
    ∃ refusal events, policy.verify key operator =
      match (operator.ask key.question).1 with
      | .error e => (.error e, (operator.ask key.question).2, events)
      | .ok text =>
        if consents text then (.ok (), (operator.ask key.question).2, events)
        else (.error refusal, (operator.ask key.question).2, events) := by
  simp only [verify, decide, checks, strict, attended, Bool.not_true, Bool.false_or, Bool.false_eq_true, if_false]
  cases operator.ask key.question with
  | mk answer asked =>
      cases answer with
      | error e => exact ⟨e, _, rfl⟩
      | ok text =>
          by_cases consent : consents text = true
          · simp [consent]
          · simp [consent]

theorem verify_ok_iff (checks : policy.checking = true) :
    (policy.verify key operator).1 = .ok () ↔ policy.autoAdd = true ∨ policy.persistent = false ∧
      ∃ answer, (operator.ask key.question).1 = .ok answer ∧ Consent answer := by
  cases adds : policy.autoAdd with
  | true => simp [verify, decide, adds]
  | false =>
      cases persistent : policy.persistent with
      | true => simp [verify, decide, checks, adds, persistent]
      | false =>
          obtain ⟨refusal, events, verified⟩ := verify_asks key operator checks adds persistent
          rw [verified]
          cases (operator.ask key.question).1 with
          | error e => simp
          | ok answer =>
              cases consent : consents answer with
              | true => simp [consent, (consents_iff answer).mp consent]
              | false =>
                  have refused : ¬ Consent answer := fun given => by simp [(consents_iff answer).mpr given] at consent
                  simp [consent, refused]

theorem verify_operator (checks : policy.checking = true) :
    (policy.verify key operator).2.1 =
      if policy.autoAdd = false ∧ policy.persistent = false then (operator.ask key.question).2 else operator := by
  cases adds : policy.autoAdd with
  | true => simp [verify, decide, adds]
  | false =>
      cases persistent : policy.persistent with
      | true => simp [verify, decide, checks, adds, persistent]
      | false =>
          obtain ⟨refusal, events, verified⟩ := verify_asks key operator checks adds persistent
          rw [verified]
          cases (operator.ask key.question).1 with
          | error e => simp
          | ok answer =>
              cases consent : consents answer with
              | true => simp [consent]
              | false => simp [consent]

end KeyPolicy

namespace Gate

def holding (host : String) (port : Nat) (policy : KeyPolicy) (store : KnownHosts) (trusted : List HostKey) : Gate :=
  ⟨host, port, policy.checking, policy, store, trusted⟩

def shown (host : String) (port : Nat) (key : PublicKey) : HostKey := key.hostKey host port "host key is unknown"

structure Run where
  gate : Gate
  operator : Prompter
  outcomes : List (PublicKey × Except Failure Unit)

def Run.present (r : Run) (key : PublicKey) : Run :=
  let (outcome, gate, operator, _) := r.gate.check key r.operator
  ⟨gate, operator, r.outcomes ++ [(key, outcome)]⟩

section Visit

variable (host : String) (port : Nat) (policy : KeyPolicy) (store : KnownHosts)

def run (operator : Prompter) (keys : List PublicKey) : Run :=
  keys.foldl Run.present ⟨holding host port policy store [], operator, []⟩

def standing (key : PublicKey) : KeyStatus := store.status host port key.keyType key.base64

-- The store leaves the key to the policy, and the policy leaves it to the operator.
def LeftToOperator (key : PublicKey) : Prop :=
  policy.checking = true ∧ standing host port store key = .unknown ∧ policy.autoAdd = false ∧ policy.persistent = false

structure Visit (before : Run) (key : PublicKey) (outcome : Except Failure Unit) (gate : Gate) (operator : Prompter) :
    Prop where
  unchecked : policy.checking = false →
    outcome = .ok () ∧ gate = before.gate ∧ operator = before.operator ∧
    -- Any other store would have made no difference.
    ∀ other, { before.gate with store := other }.check key before.operator =
      (.ok (), { before.gate with store := other }, before.operator,
        [⟨.debug, "Host key checking disabled, accepting key for " ++ host⟩])
  accepted : policy.checking = true →
    (outcome = .ok () ↔ standing host port store key = .verified ∨
      standing host port store key = .unknown ∧
        (policy.autoAdd = true ∨ policy.persistent = false ∧
          ∃ answer, (before.operator.ask (shown host port key).question).1 = .ok answer ∧ KeyPolicy.Consent answer))
  changed : policy.checking = true → standing host port store key = .changed →
    outcome = .error (.keyRejected
      ⟨host, key.keyType, key.fingerprint, "host key has changed; possible man-in-the-middle attack"⟩) ∧
    gate = before.gate ∧ operator = before.operator
  refused : ∀ failure, outcome = .error failure → gate = before.gate
  asked : LeftToOperator host port policy store key →
    operator = (before.operator.ask (shown host port key).question).2
  unasked : ¬ LeftToOperator host port policy store key → operator = before.operator

def taken (outcomes : List (PublicKey × Except Failure Unit)) : List HostKey :=
  (outcomes.filter fun (key, outcome) =>
    policy.checking && standing host port store key == .unknown && outcome.isOk).map fun (key, _) => shown host port key

variable {host port policy store} (trusted : List HostKey) (key : PublicKey) (operator : Prompter)

theorem check_unchecked (off : policy.checking = false) :
    (holding host port policy store trusted).check key operator =
      (.ok (), holding host port policy store trusted, operator,
        [⟨.debug, "Host key checking disabled, accepting key for " ++ host⟩]) := by
  simp [check, holding, off]

theorem check_checked (checks : policy.checking = true) :
    ∃ events, (holding host port policy store trusted).check key operator =
      match standing host port store key with
      | .verified => (.ok (), holding host port policy store trusted, operator, events)
      | .changed =>
        (.error ((shown host port key).rejected "host key has changed; possible man-in-the-middle attack"),
          holding host port policy store trusted, operator, events)
      | .unknown =>
        match (policy.verify (shown host port key) operator).1 with
        | .ok () => (.ok (), holding host port policy store (trusted ++ [shown host port key]),
            (policy.verify (shown host port key) operator).2.1, events)
        | .error e => (.error e, holding host port policy store trusted,
            (policy.verify (shown host port key) operator).2.1, events) := by
  simp only [check, holding, checks, Bool.not_true, Bool.false_eq_true, if_false, standing, ← shown.eq_1, KnownHosts.check,
    verify]
  have same : store.status host port key.keyType key.base64 =
    store.status host port (shown host port key).keyType (shown host port key).publicKey := rfl
  rw [same]
  cases store.status host port (shown host port key).keyType (shown host port key).publicKey with
  | verified => exact ⟨_, rfl⟩
  | changed => exact ⟨_, rfl⟩
  | unknown =>
      cases policy.verify (shown host port key) operator with
      | mk outcome rest =>
          cases outcome with
          | ok done => exact ⟨_, rfl⟩
          | error e => exact ⟨_, rfl⟩

theorem check_unknown (checks : policy.checking = true) (unknown : standing host port store key = .unknown) :
    ((holding host port policy store trusted).check key operator).1 = (policy.verify (shown host port key) operator).1 ∧
    ((holding host port policy store trusted).check key operator).2.2.1 =
      (policy.verify (shown host port key) operator).2.1 ∧
    ∀ failure, (policy.verify (shown host port key) operator).1 = .error failure →
      ((holding host port policy store trusted).check key operator).2.1 = holding host port policy store trusted := by
  obtain ⟨events, checked⟩ := check_checked trusted key operator checks
  rw [checked, unknown]
  cases (policy.verify (shown host port key) operator).1 with
  | ok done => exact ⟨rfl, rfl, fun _ failed => by cases failed⟩
  | error e => exact ⟨rfl, rfl, fun _ _ => rfl⟩

section Verdict

variable {trusted} (before : Run) (held : before.gate = holding host port policy store trusted)
include held

theorem visit_unchecked (off : policy.checking = false) :
    Visit host port policy store before key (before.gate.check key before.operator).1
      (before.gate.check key before.operator).2.1 (before.gate.check key before.operator).2.2.1 := by
  have left : ¬ LeftToOperator host port policy store key := fun left => by simp [left.1] at off
  rw [held, check_unchecked trusted key before.operator off]
  constructor
  case unchecked =>
    exact fun _ => ⟨rfl, held.symm, rfl, fun other => by rw [held]; exact check_unchecked trusted key before.operator off⟩
  case accepted => simp [off]
  case changed => simp [off]
  case refused => simp
  case asked => exact fun asks => absurd asks left
  case unasked => exact fun _ => rfl

theorem visit_known (checks : policy.checking = true) (known : standing host port store key ≠ .unknown) :
    Visit host port policy store before key (before.gate.check key before.operator).1
      (before.gate.check key before.operator).2.1 (before.gate.check key before.operator).2.2.1 := by
  have left : ¬ LeftToOperator host port policy store key := fun left => known left.2.1
  obtain ⟨events, checked⟩ := check_checked trusted key before.operator checks
  rw [held, checked]
  cases status : standing host port store key with
  | unknown => exact absurd status known
  | verified =>
      constructor
      case unchecked => simp [checks]
      case accepted => simp [status]
      case changed => simp [status]
      case refused => simp
      case asked => exact fun asks => absurd asks left
      case unasked => exact fun _ => rfl
  | changed =>
      constructor
      case unchecked => simp [checks]
      case accepted => simp [status]
      case changed => exact fun _ _ => ⟨rfl, held.symm, rfl⟩
      case refused => exact fun _ _ => held.symm
      case asked => exact fun asks => absurd asks left
      case unasked => exact fun _ => rfl

theorem visit_unknown (checks : policy.checking = true) (unknown : standing host port store key = .unknown) :
    Visit host port policy store before key (before.gate.check key before.operator).1
      (before.gate.check key before.operator).2.1 (before.gate.check key before.operator).2.2.1 := by
  have passes := KeyPolicy.verify_ok_iff (shown host port key) before.operator checks
  have left : LeftToOperator host port policy store key ↔ policy.autoAdd = false ∧ policy.persistent = false := by
    simp [LeftToOperator, checks, unknown]
  obtain ⟨same, asked, refused⟩ := check_unknown trusted key before.operator checks unknown
  rw [held, same, asked, KeyPolicy.verify_operator _ _ checks]
  constructor
  case unchecked => simp [checks]
  case accepted => simpa [checks, unknown] using passes
  case changed => simp [unknown]
  case refused => exact fun failure failed => (refused failure failed).trans held.symm
  case asked => exact fun asks => if_pos (left.mp asks)
  case unasked => exact fun unasked => if_neg fun asks => unasked (left.mpr asks)

theorem check_visit :
    Visit host port policy store before key (before.gate.check key before.operator).1
      (before.gate.check key before.operator).2.1 (before.gate.check key before.operator).2.2.1 := by
  cases checks : policy.checking with
  | false => exact visit_unchecked key before held checks
  | true =>
      by_cases unknown : standing host port store key = .unknown
      · exact visit_unknown key before held checks unknown
      · exact visit_known key before held checks unknown

end Verdict

theorem check_gate (trusted : List HostKey) (key : PublicKey) (operator : Prompter) :
    ((holding host port policy store trusted).check key operator).2.1 =
      holding host port policy store (trusted ++
        taken host port policy store [(key, ((holding host port policy store trusted).check key operator).1)]) := by
  cases checks : policy.checking with
  | false =>
      rw [check_unchecked trusted key operator checks]
      simp [taken, checks]
  | true =>
      obtain ⟨events, checked⟩ := check_checked trusted key operator checks
      rw [checked]
      cases status : standing host port store key with
      | verified => simp [taken, status]
      | changed => simp [taken, status]
      | unknown =>
          cases (policy.verify (shown host port key) operator).1 with
          | ok done => simp [taken, status, checks, Except.isOk, Except.toBool]
          | error e => simp [taken, status, checks, Except.isOk, Except.toBool]

theorem run_append (host : String) (port : Nat) (policy : KeyPolicy) (store : KnownHosts) (operator : Prompter)
    (keys : List PublicKey) (key : PublicKey) :
    run host port policy store operator (keys ++ [key]) =
      let before := run host port policy store operator keys
      let verdict := before.gate.check key before.operator
      ⟨verdict.2.1, verdict.2.2.1, before.outcomes ++ [(key, verdict.1)]⟩ := by
  simp [run, List.foldl_append, Run.present]

theorem run_gate (operator : Prompter) (keys : List PublicKey) :
    (run host port policy store operator keys).gate = holding host port policy store
      (taken host port policy store (run host port policy store operator keys).outcomes) := by
  induction keys using List.reverseRecOn with
  | nil => rfl
  | append_singleton keys key ih =>
      rw [run_append]
      simp only
      rw [ih, check_gate]
      simp [taken]

theorem keys_admitted (host : String) (port : Nat) (policy : KeyPolicy) (store : KnownHosts) (operator : Prompter) :
    (∀ before key, ∃ outcome gate asked,
      run host port policy store operator (before ++ [key]) =
        ⟨gate, asked, (run host port policy store operator before).outcomes ++ [(key, outcome)]⟩ ∧
      Visit host port policy store (run host port policy store operator before) key outcome gate asked) ∧
    ∀ keys, (run host port policy store operator keys).gate = holding host port policy store
      (taken host port policy store (run host port policy store operator keys).outcomes) := by
  refine ⟨?_, run_gate operator⟩
  intro before key
  exact ⟨_, _, _, run_append host port policy store operator before key, check_visit key _ (run_gate operator before)⟩

end Visit

end Gate
end RemoteExec

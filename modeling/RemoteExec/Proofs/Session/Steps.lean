import RemoteExec.Session.Connection

namespace RemoteExec

variable {ε σ τ α β : Type}

@[simp] theorem run_bind (a : ExceptT ε (StateM τ) α) (f : α → ExceptT ε (StateM τ) β) (s : τ) :
    (a >>= f) s = match a s with
      | (.ok x, t) => f x t
      | (.error e, t) => (.error e, t) := by
  show (match a s with | (outcome, t) => ExceptT.bindCont f outcome t) = _
  cases a s with
  | mk outcome t =>
      cases outcome with
      | ok x => rfl
      | error e => rfl

theorem run_bind_error {a : ExceptT ε (StateM τ) α} {f : α → ExceptT ε (StateM τ) β} {s : τ} {e : ε}
    (failed : (a s).1 = .error e) : ((a >>= f) s).1 = .error e := by
  rw [run_bind]
  cases ran : a s with
  | mk outcome t =>
      rw [ran] at failed
      cases failed
      rfl

theorem run_bind_ok {a : ExceptT ε (StateM τ) α} {f : α → ExceptT ε (StateM τ) β} {s t : τ} {y : β}
    (ran : (a >>= f) s = (.ok y, t)) : ∃ x between, a s = (.ok x, between) ∧ f x between = (.ok y, t) := by
  rw [run_bind] at ran
  cases split : a s with
  | mk outcome between =>
      rw [split] at ran
      cases outcome with
      | ok x => exact ⟨x, between, rfl, ran⟩
      | error e => cases ran

@[simp] theorem run_map (f : α → β) (a : ExceptT ε (StateM τ) α) (s : τ) : (f <$> a) s = ((a s).1.map f, (a s).2) := by
  simp only [Functor.map, ExceptT.map, ExceptT.mk, bind, StateT.bind]
  cases a s with
  | mk outcome t =>
      cases outcome with
      | ok x => rfl
      | error e => rfl

@[simp] theorem run_pure (x : α) (s : τ) : (pure x : ExceptT ε (StateM τ) α) s = (.ok x, s) := rfl

@[simp] theorem run_throw (e : ε) (s : τ) : (throw e : ExceptT ε (StateM τ) α) s = (.error e, s) := rfl

@[simp] theorem run_get (s : τ) : (get : ExceptT ε (StateM τ) τ) s = (.ok s, s) := rfl

@[simp] theorem run_set (t s : τ) : (set t : ExceptT ε (StateM τ) PUnit) s = (.ok ⟨⟩, t) := rfl

@[simp] theorem run_modify (f : τ → τ) (s : τ) : (modify f : ExceptT ε (StateM τ) PUnit) s = (.ok ⟨⟩, f s) := rfl

@[simp] theorem run_lift (a : StateM τ α) (s : τ) :
    (ExceptT.lift a : ExceptT ε (StateM τ) α) s = (.ok (a s).1, (a s).2) := rfl

@[simp] theorem Op.run_tell (level : Level) (text : String) (o : Outside σ) :
    Op.tell level text o = (.ok (), o.tell [⟨level, text⟩]) := rfl

@[simp] theorem Op.run_attempt (op : Op σ α) (o : Outside σ) : Op.attempt op o = (.ok (op o).1, (op o).2) := rfl

namespace Act

@[simp] theorem run_ofOp (op : Op σ α) (s : Scene σ) :
    ofOp op s = ((op s.outside).1, { s with outside := (op s.outside).2 }) := rfl

@[simp] theorem run_attempt (a : Act σ α) (s : Scene σ) : attempt a s = (.ok (a s).1, (a s).2) := rfl

@[simp] theorem run_tell (level : Level) (text : String) (s : Scene σ) :
    tell level text s = (.ok (), { s with outside := s.outside.tell [⟨level, text⟩] }) := rfl

@[simp] theorem run_hold (change : Held → Held) (s : Scene σ) :
    hold change s = (.ok (), { s with held := change s.held }) := rfl

@[simp] theorem run_setState (state : ConnectionState) (s : Scene σ) :
    setState state s = (.ok (), { s with held := { s.held with state := state } }) := rfl

end Act

def Leads (P : τ → Prop) (a : ExceptT ε (StateM τ) α) (Q : τ → Prop) : Prop := ∀ s, P s → Q (a s).2

namespace Leads

variable {P Q R : τ → Prop}

theorem after {a : ExceptT ε (StateM τ) α} {s t : τ} {outcome : Except ε α} (leads : Leads P a Q)
    (ran : a s = (outcome, t)) (before : P s) : Q t := by
  have ended := leads s before
  rw [ran] at ended
  exact ended

-- A failure ends the whole operation where its first part ends, so what holds there must be enough.
theorem bind {a : ExceptT ε (StateM τ) α} {f : α → ExceptT ε (StateM τ) β} (first : Leads P a R)
    (second : ∀ x, Leads R (f x) Q) (enough : ∀ s, R s → Q s) : Leads P (a >>= f) Q := by
  intro s before
  have between := first s before
  rw [run_bind]
  cases ran : a s with
  | mk outcome t =>
      rw [ran] at between
      cases outcome with
      | ok x => exact second x t between
      | error e => exact enough t between

theorem keep {a : ExceptT ε (StateM τ) α} {f : α → ExceptT ε (StateM τ) β} (first : Leads P a Q)
    (second : ∀ x, Leads Q (f x) Q) : Leads P (a >>= f) Q :=
  first.bind second fun _ holds => holds

theorem pure (x : α) (enough : ∀ s, P s → Q s) : Leads P (Pure.pure x : ExceptT ε (StateM τ) α) Q := enough

theorem throw (e : ε) (enough : ∀ s, P s → Q s) : Leads P (MonadExcept.throw e : ExceptT ε (StateM τ) α) Q := enough

theorem map (f : α → β) {a : ExceptT ε (StateM τ) α} (leads : Leads P a Q) : Leads P (f <$> a) Q := by
  intro s before
  rw [run_map]
  exact leads s before

theorem attempt {P Q : Scene σ → Prop} {a : Act σ α} (leads : Leads P a Q) : Leads P (Act.attempt a) Q := leads

theorem attemptOp {P Q : Outside σ → Prop} {op : Op σ α} (leads : Leads P op Q) : Leads P (Op.attempt op) Q := leads

end Leads
end RemoteExec

import RemoteExec.Registry.Basic

namespace RemoteExec.Registry

variable {κ α : Type}

theorem value_fill (r : Registry κ α) (cell other : Nat) (value : α) :
    (r.fill cell value).value? other = if other = cell then some value else r.value? other := by
  by_cases same : other = cell
  · subst other
    simp [value?, fill]
  · have apart : ¬ cell = other := fun eq => same eq.symm
    simp [value?, fill, same, apart]

theorem value_of_mem {r : Registry κ α} {m : Nat × α} (listed : m ∈ r.values) : r.value? m.1 ≠ none := by
  intro vacant
  simp only [value?, Option.map_eq_none_iff, List.find?_eq_none] at vacant
  exact vacant m listed (by simp)

theorem value_of_single {r first : Registry κ α} {made : List (Nat × α)} (grown : r.values = made ++ first.values)
    (few : made.length ≤ 1) {m : Nat × α} (listed : m ∈ made) : r.value? m.1 = some m.2 := by
  cases made with
  | nil => exact absurd listed (by simp)
  | cons head tail =>
      have alone : tail = [] := List.eq_nil_of_length_eq_zero (by simp only [List.length_cons] at few; omega)
      subst alone
      have same : m = head := by simpa using listed
      simp [value?, grown, same]

variable [DecidableEq κ]

@[simp] theorem cell_fill (r : Registry κ α) (cell : Nat) (value : α) (key : κ) :
    (r.fill cell value).cell? key = r.cell? key := rfl

@[simp] theorem value_erase (r : Registry κ α) (key : κ) (cell : Nat) :
    (r.erase key).value? cell = r.value? cell := rfl

theorem cell_erase (r : Registry κ α) (key other : κ) :
    (r.erase key).cell? other = if other = key then none else r.cell? other := by
  simp only [cell?, erase, List.find?_filter]
  by_cases same : other = key
  · subst other
    simp
  · have agree : ∀ e : κ × Nat, (!decide (e.1 = key) && decide (e.1 = other)) = decide (e.1 = other) := by
      intro e
      by_cases hit : e.1 = other
      · simp [hit, same]
      · simp [hit]
    simp [agree, same]

theorem enter_known (r : Registry κ α) (key : κ) (cell : Nat) (entry : r.cell? key = some cell) :
    r.enter key = (cell, r) := by
  simp [enter, entry]

theorem enter_new (r : Registry κ α) (key : κ) (entry : r.cell? key = none) :
    r.enter key = (r.next, { r with entries := (key, r.next) :: r.entries, next := r.next + 1 }) := by
  simp [enter, entry]

theorem cell_enter (r : Registry κ α) (key other : κ) :
    (r.enter key).2.cell? other = if other = key then some (r.enter key).1 else r.cell? other := by
  cases entry : r.cell? key with
  | some cell =>
      rw [enter_known r key cell entry]
      by_cases same : other = key
      · simp [same, entry]
      · simp [same]
  | none =>
      rw [enter_new r key entry]
      by_cases same : other = key
      · simp [cell?, same]
      · have apart : ¬ key = other := fun eq => same eq.symm
        simp [cell?, same, apart]

@[simp] theorem values_enter (r : Registry κ α) (key : κ) : (r.enter key).2.values = r.values := by
  cases entry : r.cell? key with
  | some cell => rw [enter_known r key cell entry]
  | none => rw [enter_new r key entry]

@[simp] theorem value_enter (r : Registry κ α) (key : κ) (cell : Nat) :
    (r.enter key).2.value? cell = r.value? cell := by
  simp only [value?, values_enter]

theorem next_enter (r : Registry κ α) (key : κ) : r.next ≤ (r.enter key).2.next := by
  cases entry : r.cell? key with
  | some cell => simp only [enter_known r key cell entry, Nat.le_refl]
  | none => simp only [enter_new r key entry, Nat.le_succ]

theorem cell_abandon (r : Registry κ α) (key other : κ) (cell : Nat) :
    (r.abandon key cell).cell? other =
      if other = key ∧ r.cell? key = some cell ∧ r.value? cell = none then none else r.cell? other := by
  by_cases leads : r.cell? key = some cell ∧ (r.value? cell).isNone
  · have vacant : r.value? cell = none := Option.isNone_iff_eq_none.mp leads.2
    rw [abandon, if_pos leads, cell_erase]
    simp [leads.1, vacant]
  · have kept : ¬ (other = key ∧ r.cell? key = some cell ∧ r.value? cell = none) := by
      rintro ⟨_, entry, vacant⟩
      exact leads ⟨entry, by simp [vacant]⟩
    rw [abandon, if_neg leads, if_neg kept]

@[simp] theorem values_abandon (r : Registry κ α) (key : κ) (cell : Nat) : (r.abandon key cell).values = r.values := by
  unfold abandon
  split <;> rfl

@[simp] theorem value_abandon (r : Registry κ α) (key : κ) (cell other : Nat) :
    (r.abandon key cell).value? other = r.value? other := by
  simp only [value?, values_abandon]

@[simp] theorem next_abandon (r : Registry κ α) (key : κ) (cell : Nat) : (r.abandon key cell).next = r.next := by
  unfold abandon
  split <;> rfl

structure Sound (r : Registry κ α) : Prop where
  entries_used : ∀ key cell, r.cell? key = some cell → cell < r.next
  values_used : ∀ cell value, r.value? cell = some value → cell < r.next
  apart : ∀ key other cell, r.cell? key = some cell → r.cell? other = some cell → key = other

theorem empty_sound : (empty : Registry κ α).Sound :=
  ⟨by simp [empty, cell?], by simp [empty, value?], by simp [empty, cell?]⟩

theorem Sound.next_vacant {r : Registry κ α} (sound : r.Sound) : r.value? r.next = none := by
  cases value : r.value? r.next with
  | none => rfl
  | some v => exact absurd (sound.values_used _ _ value) (Nat.lt_irrefl _)

theorem Sound.erase {r : Registry κ α} (sound : r.Sound) (key : κ) : (r.erase key).Sound := by
  have shrinks : ∀ other cell, (r.erase key).cell? other = some cell → r.cell? other = some cell := by
    intro other cell entry
    rw [cell_erase] at entry
    by_cases same : other = key
    · simp [same] at entry
    · simpa [same] using entry
  exact ⟨fun other cell entry => sound.entries_used other cell (shrinks other cell entry), sound.values_used,
    fun one other cell first second => sound.apart one other cell (shrinks one cell first) (shrinks other cell second)⟩

theorem Sound.abandon {r : Registry κ α} (sound : r.Sound) (key : κ) (cell : Nat) : (r.abandon key cell).Sound := by
  unfold Registry.abandon
  split
  · exact sound.erase key
  · exact sound

theorem Sound.fill {r : Registry κ α} (sound : r.Sound) (cell : Nat) (value : α) (used : cell < r.next) :
    (r.fill cell value).Sound := by
  refine ⟨sound.entries_used, ?_, sound.apart⟩
  intro other v filled
  rw [value_fill] at filled
  by_cases same : other = cell
  · rw [same]
    exact used
  · rw [if_neg same] at filled
    exact sound.values_used other v filled

theorem Sound.enter {r : Registry κ α} (sound : r.Sound) (key : κ) : (r.enter key).2.Sound := by
  cases entry : r.cell? key with
  | some cell =>
      rw [enter_known r key cell entry]
      exact sound
  | none =>
      have leads := cell_enter r key
      have bound := next_enter r key
      have fresh : (r.enter key).1 = r.next := by rw [enter_new r key entry]
      have grown : r.next < (r.enter key).2.next := by
        rw [enter_new r key entry]
        exact Nat.lt_succ_self r.next
      -- No older entry leads to the next cell.
      have unused : ∀ other, r.cell? other ≠ some r.next := fun other hit =>
        absurd (sound.entries_used other r.next hit) (Nat.lt_irrefl _)
      refine ⟨?_, ?_, ?_⟩
      · intro other cell found
        rw [leads] at found
        by_cases same : other = key
        · simp only [if_pos same, Option.some.injEq] at found
          omega
        · rw [if_neg same] at found
          exact Nat.lt_of_lt_of_le (sound.entries_used other cell found) bound
      · intro cell value found
        rw [value_enter] at found
        exact Nat.lt_of_lt_of_le (sound.values_used cell value found) bound
      · intro one other cell first second
        rw [leads] at first second
        by_cases sameOne : one = key
        · by_cases sameOther : other = key
          · exact sameOne.trans sameOther.symm
          · simp only [if_pos sameOne, if_neg sameOther, Option.some.injEq] at first second
            exact absurd (by rw [second, ← first, fresh]) (unused other)
        · by_cases sameOther : other = key
          · simp only [if_neg sameOne, if_pos sameOther, Option.some.injEq] at first second
            exact absurd (by rw [first, ← second, fresh]) (unused one)
          · rw [if_neg sameOne] at first
            rw [if_neg sameOther] at second
            exact sound.apart one other cell first second

theorem Sound.entered_used {r : Registry κ α} (sound : r.Sound) (key : κ) : (r.enter key).1 < (r.enter key).2.next :=
  (sound.enter key).entries_used key _ (by simp [cell_enter])

theorem get_erase (r : Registry κ α) (key other : κ) :
    (r.erase key).get? other = if other = key then none else r.get? other := by
  simp only [get?, cell_erase]
  split
  · rfl
  · rfl

theorem Sound.get_enter {r : Registry κ α} (sound : r.Sound) (key other : κ) :
    (r.enter key).2.get? other = r.get? other := by
  cases entry : r.cell? key with
  | some cell => rw [enter_known r key cell entry]
  | none =>
      have fresh : (r.enter key).1 = r.next := by rw [enter_new r key entry]
      have values : (r.enter key).2.value? = r.value? := funext (value_enter r key)
      unfold get?
      rw [values, cell_enter]
      by_cases same : other = key
      · rw [if_pos same, same, entry, fresh]
        exact sound.next_vacant
      · rw [if_neg same]

theorem Sound.value_entered {r : Registry κ α} (sound : r.Sound) (key : κ) :
    r.value? (r.enter key).1 = r.get? key := by
  cases entry : r.cell? key with
  | some cell => simp [enter_known r key cell entry, get?, entry]
  | none => simp [enter_new r key entry, get?, entry, sound.next_vacant]

theorem get_fill (r : Registry κ α) (key : κ) (cell : Nat) (value : α) (leads : r.cell? key = some cell) :
    (r.fill cell value).get? key = some value := by
  simp [get?, leads, value_fill]

theorem get_fill_elsewhere (r : Registry κ α) (key : κ) (cell : Nat) (value : α) (away : r.cell? key ≠ some cell) :
    (r.fill cell value).get? key = r.get? key := by
  cases entry : r.cell? key with
  | none => simp [get?, entry]
  | some own =>
      have apart : own ≠ cell := fun same => away (by rw [entry, same])
      simp [get?, entry, value_fill, apart]

theorem get_fill_cases (r : Registry κ α) (key : κ) (cell : Nat) (value shown : α)
    (seen : (r.fill cell value).get? key = some shown) : shown = value ∨ r.get? key = some shown := by
  by_cases leads : r.cell? key = some cell
  · rw [get_fill r key cell value leads] at seen
    cases seen
    exact Or.inl rfl
  · rw [get_fill_elsewhere r key cell value leads] at seen
    exact Or.inr seen

theorem get_abandon (r : Registry κ α) (key other : κ) (cell : Nat) :
    (r.abandon key cell).get? other = r.get? other := by
  have values : (r.abandon key cell).value? = r.value? := funext (value_abandon r key cell)
  by_cases leads : other = key ∧ r.cell? key = some cell ∧ r.value? cell = none
  · obtain ⟨same, entry, vacant⟩ := leads
    subst other
    simp [get?, cell_abandon, entry, vacant]
  · simp only [get?, cell_abandon, if_neg leads, values]

end RemoteExec.Registry

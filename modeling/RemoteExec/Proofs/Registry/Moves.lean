import Mathlib.Data.List.Nodup
import RemoteExec.Proofs.Registry.Laws
import RemoteExec.Registry.Traffic

namespace RemoteExec.Registry

variable {κ α : Type} [DecidableEq κ]

section Entries

variable (r : Registry κ α) (key : κ)

theorem cell_none_iff : r.cell? key = none ↔ key ∉ r.entries.map Prod.fst := by
  simp only [cell?, Option.map_eq_none_iff, List.find?_eq_none, List.mem_map, decide_eq_true_eq]
  constructor
  · rintro none_found ⟨e, listed, same⟩
    exact none_found e listed same
  · intro unlisted e listed same
    exact unlisted ⟨e, listed, same⟩

def Single : Prop := (r.entries.map Prod.fst).Nodup

variable {r}

theorem Single.cell_iff (single : r.Single) (cell : Nat) : r.cell? key = some cell ↔ (key, cell) ∈ r.entries := by
  have found : ∀ entries : List (κ × Nat), (entries.map Prod.fst).Nodup →
      ((entries.find? fun e => e.1 = key).map (·.2) = some cell ↔ (key, cell) ∈ entries) := by
    intro entries
    induction entries with
    | nil => simp
    | cons first rest ih =>
        intro apart
        rw [List.map_cons, List.nodup_cons] at apart
        obtain ⟨unlisted, apart⟩ := apart
        by_cases here : first.1 = key
        · have later : (key, cell) ∉ rest := by
            intro listed
            apply unlisted
            rw [here]
            exact List.mem_map_of_mem (f := Prod.fst) listed
          have same : (key, cell) = first ↔ cell = first.2 := by
            rw [Prod.ext_iff]
            exact and_iff_right here.symm
          simp [here, later, same, eq_comm]
        · have unlike : (key, cell) ≠ first := fun same => here (by rw [← same])
          simp only [List.find?_cons, decide_eq_false here, List.mem_cons, unlike, false_or]
          exact ih apart
  exact found r.entries single

theorem Single.enter (single : r.Single) : (r.enter key).2.Single := by
  cases entry : r.cell? key with
  | some cell =>
      rw [enter_known r key cell entry]
      exact single
  | none =>
      rw [enter_new r key entry]
      exact List.nodup_cons.mpr ⟨(cell_none_iff r key).mp entry, single⟩

theorem Single.erase (single : r.Single) : (r.erase key).Single :=
  List.Nodup.sublist (List.filter_sublist.map Prod.fst) single

theorem Single.abandon (single : r.Single) (cell : Nat) : (r.abandon key cell).Single := by
  unfold Registry.abandon
  split
  · exact single.erase key
  · exact single

theorem contains_eq (r : Registry κ α) (key : κ) : r.contains key = (r.get? key).isSome := by
  cases entry : r.cell? key with
  | none => simp [contains, get?, entry]
  | some cell => simp [contains, get?, entry]

theorem Single.size_shown (single : r.Single) :
    ∃ shown : List κ, shown.Nodup ∧ (∀ key, key ∈ shown ↔ (r.get? key).isSome = true) ∧ r.size = shown.length := by
  refine ⟨(r.entries.filter fun e => (r.value? e.2).isSome).map Prod.fst, ?_, ?_, ?_⟩
  · exact List.Nodup.sublist (List.filter_sublist.map Prod.fst) single
  · intro key
    constructor
    · intro listed
      obtain ⟨⟨same, cell⟩, inside, rfl⟩ := List.mem_map.mp listed
      obtain ⟨entry, filled⟩ := List.mem_filter.mp inside
      have leads : r.cell? same = some cell := (single.cell_iff same cell).mpr entry
      simpa [get?, leads] using filled
    · intro visible
      obtain ⟨value, shown⟩ := Option.isSome_iff_exists.mp visible
      obtain ⟨cell, leads, filled⟩ := Option.bind_eq_some_iff.mp shown
      apply List.mem_map.mpr
      refine ⟨(key, cell), List.mem_filter.mpr ⟨(single.cell_iff key cell).mp leads, ?_⟩, rfl⟩
      simp [filled]
  · simp [size]

end Entries

namespace Traffic

-- What every move keeps. A cell belongs to one key for good, and only vacant cells are worked on, by one call each.
structure Lawful (t : Traffic κ α) : Prop where
  sound : t.registry.Sound
  single : t.registry.Single
  used : ∀ i call, t.calls i = some call → call.cell < t.registry.next
  own : ∀ i call other, t.calls i = some call → t.registry.cell? other = some call.cell → other = call.key
  vacant : ∀ i key cell, t.calls i = some ⟨key, cell, .creating⟩ → t.registry.value? cell = none
  alone : ∀ i j key other cell, t.calls i = some ⟨key, cell, .creating⟩ → t.calls j = some ⟨other, cell, .creating⟩ → j = i

theorem quiet_lawful : (quiet : Traffic κ α).Lawful where
  sound := empty_sound
  single := List.nodup_nil
  used := by simp [quiet]
  own := by simp [quiet]
  vacant := by simp [quiet]
  alone := by simp [quiet]

variable {t t' : Traffic κ α}

omit [DecidableEq κ] in
theorem calls_update {calls : Nat → Option (Call κ)} {i j : Nat} {put : Option (Call κ)} {call : Call κ}
    (read : Function.update calls i put j = some call) : j = i ∧ put = some call ∨ j ≠ i ∧ calls j = some call := by
  by_cases same : j = i
  · rw [same, Function.update_self] at read
    exact .inl ⟨same, read⟩
  · rw [Function.update_of_ne same] at read
    exact .inr ⟨same, read⟩

theorem Lawful.gone (lawful : t.Lawful) (i : Nat) : (t.setCall i none).Lawful := by
  have before : ∀ j call, (t.setCall i none).calls j = some call → t.calls j = some call := by
    intro j call read
    obtain ⟨_, absent⟩ | ⟨_, kept⟩ := calls_update read
    · cases absent
    · exact kept
  constructor
  case sound => exact lawful.sound
  case single => exact lawful.single
  case used => exact fun j call read => lawful.used j call (before j call read)
  case own => exact fun j call other read => lawful.own j call other (before j call read)
  case vacant => exact fun j key cell read => lawful.vacant j key cell (before j _ read)
  case alone =>
    exact fun j k key other cell first second => lawful.alone j k key other cell (before j _ first) (before k _ second)

theorem Lawful.put (lawful : t.Lawful) (i : Nat) (call : Call κ) (used : call.cell < t.registry.next)
    (own : ∀ other, t.registry.cell? other = some call.cell → other = call.key)
    (vacant : call.doing = .creating → t.registry.value? call.cell = none)
    (alone : call.doing = .creating → ∀ j other, t.calls j = some ⟨other, call.cell, .creating⟩ → j = i) :
    (t.setCall i (some call)).Lawful := by
  constructor
  case sound => exact lawful.sound
  case single => exact lawful.single
  case used =>
    intro j found read
    obtain ⟨_, same⟩ | ⟨_, kept⟩ := calls_update read
    · cases same
      exact used
    · exact lawful.used j found kept
  case own =>
    intro j found other read leads
    obtain ⟨_, same⟩ | ⟨_, kept⟩ := calls_update read
    · cases same
      exact own other leads
    · exact lawful.own j found other kept leads
  case vacant =>
    intro j key cell read
    obtain ⟨_, same⟩ | ⟨_, kept⟩ := calls_update read
    · cases same
      exact vacant rfl
    · exact lawful.vacant j key cell kept
  case alone =>
    intro j k key other cell first second
    obtain ⟨here, same⟩ | ⟨away, kept⟩ := calls_update first
    · obtain ⟨there, _⟩ | ⟨_, busy⟩ := calls_update second
      · rw [here, there]
      · cases same
        rw [here]
        exact alone rfl k other busy
    · obtain ⟨there, same⟩ | ⟨_, busy⟩ := calls_update second
      · cases same
        exact absurd (alone rfl j key kept) away
      · exact lawful.alone j k key other cell kept busy

theorem Lawful.lost (lawful : t.Lawful) {less : Registry κ α} (sound : less.Sound) (single : less.Single)
    (next : less.next = t.registry.next) (values : ∀ cell, less.value? cell = t.registry.value? cell)
    (entries : ∀ key cell, less.cell? key = some cell → t.registry.cell? key = some cell) :
    ({ t with registry := less } : Traffic κ α).Lawful := by
  constructor
  case sound => exact sound
  case single => exact single
  case used =>
    intro i call read
    rw [next]
    exact lawful.used i call read
  case own => exact fun i call other read leads => lawful.own i call other read (entries other _ leads)
  case vacant =>
    intro i key cell read
    rw [values]
    exact lawful.vacant i key cell read
  case alone => exact lawful.alone

theorem Lawful.erased (lawful : t.Lawful) (key : κ) :
    ({ t with registry := t.registry.erase key } : Traffic κ α).Lawful := by
  apply lawful.lost (lawful.sound.erase key) (lawful.single.erase key) rfl (value_erase _ key)
  intro other cell leads
  rw [cell_erase] at leads
  split at leads
  · cases leads
  · exact leads

theorem Lawful.abandoned (lawful : t.Lawful) (key : κ) (cell : Nat) :
    ({ t with registry := t.registry.abandon key cell } : Traffic κ α).Lawful := by
  apply lawful.lost (lawful.sound.abandon key cell) (lawful.single.abandon key cell) (next_abandon _ key cell)
    (value_abandon _ key cell)
  intro other found leads
  rw [cell_abandon] at leads
  split at leads
  · cases leads
  · exact leads

theorem Lawful.entered (lawful : t.Lawful) (key : κ) :
    ({ t with registry := (t.registry.enter key).2 } : Traffic κ α).Lawful := by
  constructor
  case sound => exact lawful.sound.enter key
  case single => exact lawful.single.enter key
  case used => exact fun i call read => Nat.lt_of_lt_of_le (lawful.used i call read) (next_enter _ key)
  case own =>
    intro i call other read leads
    cases entry : t.registry.cell? key with
    | some cell =>
        rw [enter_known _ key cell entry] at leads
        exact lawful.own i call other read leads
    | none =>
        rw [cell_enter] at leads
        split at leads
        next same =>
          -- The new cell is in nobody's hands.
          have fresh : call.cell = t.registry.next := by
            rw [enter_new _ key entry] at leads
            exact (Option.some.inj leads).symm
          exact absurd (lawful.used i call read) (by rw [fresh]; exact Nat.lt_irrefl _)
        next apart => exact lawful.own i call other read leads
  case vacant =>
    intro i other cell read
    rw [value_enter]
    exact lawful.vacant i other cell read
  case alone => exact lawful.alone

theorem Lawful.filled (lawful : t.Lawful) {cell : Nat} (value : α) (used : cell < t.registry.next)
    (free : ∀ i key, t.calls i ≠ some ⟨key, cell, .creating⟩) :
    ({ t with registry := t.registry.fill cell value } : Traffic κ α).Lawful := by
  constructor
  case sound => exact lawful.sound.fill cell value used
  case single => exact lawful.single
  case used => exact lawful.used
  case own => exact lawful.own
  case vacant =>
    intro i key other read
    rw [value_fill, if_neg]
    · exact lawful.vacant i key other read
    · rintro rfl
      exact free i key read
  case alone => exact lawful.alone

theorem step_lawful (lawful : t.Lawful) {m : Move κ α} (step : Step t m t') : t'.Lawful := by
  cases step with
  | enter i key away =>
      apply (lawful.entered key).put i ⟨key, (t.registry.enter key).1, .waiting⟩
      · exact lawful.sound.entered_used key
      · intro other leads
        exact (lawful.sound.enter key).apart other key _ leads (by rw [cell_enter, if_pos rfl])
      · intro busy
        cases busy
      · intro busy
        cases busy
  | find i here filled => exact lawful.gone i
  | begin i here vacant alone =>
      have used := lawful.used i _ here
      have own := fun other => lawful.own i _ other here
      exact lawful.put i _ used own (fun _ => vacant) fun _ j other busy => absurd busy (alone j other)
  | make i value here =>
      apply (lawful.gone i).filled value (lawful.used i _ here)
      intro j other busy
      obtain ⟨_, absent⟩ | ⟨away, busy⟩ := calls_update busy
      · cases absent
      · exact away (lawful.alone i j _ other _ here busy)
  | fail i here =>
      have used := lawful.used i _ here
      have own := fun other => lawful.own i _ other here
      apply lawful.put i ⟨_, _, .failed⟩ used own
      · intro busy
        cases busy
      · intro busy
        cases busy
  | clean i here => exact (lawful.gone i).abandoned _ _
  | cancel i => exact lawful.gone i
  | remove key => exact lawful.erased key
  | removeIf key stale =>
      simp only [removeIf]
      split
      · split
        · exact lawful.erased key
        · exact lawful
      · exact lawful

theorem run_lawful {moves : List (Move κ α)} (run : Run t moves t') (lawful : t.Lawful) : t'.Lawful := by
  induction run with
  | stay => exact lawful
  | step first _ ih => exact ih (step_lawful lawful first)

theorem addressed_call {i : Nat} {call : Call κ} (here : t.calls i = some call) :
    t.addressed i = if t.registry.cell? call.key = some call.cell then some call.key else none := by
  simp [addressed, here]

theorem make_contents (lawful : t.Lawful) {i : Nat} {call : Call κ} (here : t.calls i = some call) (value : α) :
    (t.registry.fill call.cell value).get? = t.after (.make i value) := by
  funext key
  rw [after, addressed_call here]
  by_cases registered : t.registry.cell? call.key = some call.cell
  · rw [if_pos registered]
    change _ = Function.update t.contents call.key (some value) key
    by_cases same : key = call.key
    · rw [same, get_fill _ _ _ _ registered, Function.update_self]
    · rw [Function.update_of_ne same]
      exact get_fill_elsewhere _ _ _ _ fun leads => same (lawful.own i call key here leads)
  · rw [if_neg registered]
    apply get_fill_elsewhere
    intro leads
    have same : key = call.key := lawful.own i call key here leads
    exact registered (same ▸ leads)

theorem remove_contents (t : Traffic κ α) (key : κ) : (t.registry.erase key).get? = Function.update t.contents key none := by
  funext other
  rw [get_erase]
  by_cases same : other = key
  · rw [if_pos same, same, Function.update_self]
  · rw [if_neg same, Function.update_of_ne same]
    rfl

theorem removeIf_contents (t : Traffic κ α) (key : κ) (stale : α → Bool) :
    (t.registry.removeIf key stale).1 = (t.contents key).filter stale ∧
    (t.registry.removeIf key stale).2.get? = t.after (.removeIf key stale) := by
  cases shown : t.contents key with
  | none =>
      have run : t.registry.removeIf key stale = (none, t.registry) := by
        rw [contents] at shown
        simp only [removeIf, shown]
      rw [run, after, shown]
      exact ⟨rfl, rfl⟩
  | some value =>
      have run : t.registry.removeIf key stale =
          if stale value then (some value, t.registry.erase key) else (none, t.registry) := by
        rw [contents] at shown
        simp only [removeIf, shown]
      rw [run, after, shown, Option.any_some, Option.filter_some]
      by_cases held : stale value = true
      · simp only [if_pos held]
        exact ⟨trivial, remove_contents t key⟩
      · simp only [if_neg held]
        exact ⟨trivial, rfl⟩

theorem step_contents (lawful : t.Lawful) {m : Move κ α} (step : Step t m t') : t'.contents = t.after m := by
  cases step with
  | enter i key away => exact funext (lawful.sound.get_enter key)
  | find i here filled => rfl
  | begin i here vacant alone => rfl
  | make i value here => exact make_contents lawful here value
  | fail i here => rfl
  | clean i here => exact funext fun other => get_abandon _ _ other _
  | cancel i => rfl
  | remove key => exact remove_contents t key
  | removeIf key stale => exact (removeIf_contents t key stale).2

structure Observed (t : Traffic κ α) : Prop where
  contains : ∀ key, t.registry.contains key = (t.contents key).isSome
  size : ∃ shown : List κ, shown.Nodup ∧ (∀ key, key ∈ shown ↔ (t.contents key).isSome = true) ∧
    t.registry.size = shown.length
  removed : ∀ key, (t.registry.remove key).1 = t.contents key
  removedIf : ∀ key stale, (t.registry.removeIf key stale).1 = (t.contents key).filter stale

theorem Lawful.observed (lawful : t.Lawful) : t.Observed where
  contains := contains_eq t.registry
  size := lawful.single.size_shown
  removed := fun _ => rfl
  removedIf := fun key stale => (removeIf_contents t key stale).1

theorem make_unseen (lawful : t.Lawful) {i : Nat} {value : α} (step : Step t (.make i value) t') {key : κ}
    (addressed : t.addressed i = some key) : t.contents key = none := by
  cases step with
  | make i value here =>
      rw [addressed_call here] at addressed
      split at addressed
      next registered =>
        cases addressed
        simp [contents, get?, registered, lawful.vacant i _ _ here]
      next => cases addressed

theorem step_stays (lawful : t.Lawful) {m : Move κ α} (step : Step t m t') {key : κ} {value : α}
    (shown : t.contents key = some value) (spared : ¬ m.Removes key value) : t'.contents key = some value := by
  rw [step_contents lawful step]
  cases m with
  | make i fresh =>
      simp only [after]
      cases addressed : t.addressed i with
      | none => exact shown
      | some other =>
          have apart : key ≠ other := by
            rintro rfl
            rw [make_unseen lawful step addressed] at shown
            cases shown
          change Function.update t.contents other (some fresh) key = some value
          rw [Function.update_of_ne apart]
          exact shown
  | remove other =>
      have apart : key ≠ other := fun same => spared same.symm
      simp only [after]
      rw [Function.update_of_ne apart]
      exact shown
  | removeIf other stale =>
      simp only [after]
      by_cases same : other = key
      · have kept : stale value ≠ true := fun held => spared ⟨same, held⟩
        rw [same, shown, Option.any_some, if_neg kept]
        exact shown
      · split
        · rw [Function.update_of_ne (Ne.symm same)]
          exact shown
        · exact shown
  | _ => exact shown

theorem run_stays {moves : List (Move κ α)} (run : Run t moves t') (lawful : t.Lawful) {key : κ} {value : α}
    (shown : t.contents key = some value) (spared : ∀ m ∈ moves, ¬ m.Removes key value) : t'.contents key = some value := by
  induction run with
  | stay => exact shown
  | step first _ ih =>
      apply ih (step_lawful lawful first)
      · exact step_stays lawful first shown (spared _ List.mem_cons_self)
      · exact fun m listed => spared m (List.mem_cons_of_mem _ listed)

theorem Run.append {middle : Traffic κ α} {early late : List (Move κ α)} (first : Run t early middle)
    (second : Run middle late t') : Run t (early ++ late) t' := by
  induction first with
  | stay => exact second
  | step move _ ih => exact .step move (ih second)

end Traffic
end RemoteExec.Registry

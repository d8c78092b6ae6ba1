import RemoteExec.Proofs.Registry.Turns

namespace RemoteExec.Registry

variable {ω κ α : Type} [DecidableEq κ]

structure Descends (key : κ) (first r : Registry κ α) : Prop where
  sound : r.Sound
  grown : ∃ made, r.values = made ++ first.values
  later : first.next ≤ r.next
  origin : ∀ cell, r.cell? key = some cell → first.cell? key = some cell ∨ first.next ≤ cell

theorem descends_first (key : κ) (first : Registry κ α) (sound : first.Sound) : Descends key first first :=
  ⟨sound, ⟨[], rfl⟩, Nat.le_refl _, fun _ entry => .inl entry⟩

theorem descends_enter (key : κ) (first r : Registry κ α) (from_first : Descends key first r) :
    Descends key first (r.enter key).2 := by
  refine ⟨from_first.sound.enter key, ?_, Nat.le_trans from_first.later (next_enter r key), ?_⟩
  · rw [values_enter]
    exact from_first.grown
  · intro cell entry
    cases known : r.cell? key with
    | some old =>
        rw [enter_known r key old known] at entry
        exact from_first.origin cell entry
    | none =>
        have entered : some (r.enter key).1 = some cell := by
          rw [← entry, cell_enter, if_pos rfl]
        have fresh : (r.enter key).1 = r.next := by rw [enter_new r key known]
        have same : r.next = cell := fresh.symm.trans (Option.some.inj entered)
        exact .inr (same ▸ from_first.later)

theorem descends_fill (key : κ) (first r : Registry κ α) (from_first : Descends key first r) (cell : Nat) (v : α)
    (used : cell < r.next) : Descends key first (r.fill cell v) := by
  obtain ⟨made, grown⟩ := from_first.grown
  exact ⟨from_first.sound.fill cell v used, ⟨(cell, v) :: made, by simp [fill, grown]⟩, from_first.later, from_first.origin⟩

theorem descends_abandon (key : κ) (first r : Registry κ α) (from_first : Descends key first r) (cell : Nat) :
    Descends key first (r.abandon key cell) := by
  refine ⟨from_first.sound.abandon key cell, ?_, ?_, ?_⟩
  · rw [values_abandon]
    exact from_first.grown
  · rw [next_abandon]
    exact from_first.later
  · intro other entry
    rw [cell_abandon] at entry
    split at entry
    · exact absurd entry (by simp)
    · exact from_first.origin other entry

theorem descends_unmade {key : κ} {first r : Registry κ α} (from_first : Descends key first r) (sound : first.Sound) (unmade : r.values = first.values)
    {v : α} (shown : r.get? key = some v) : first.get? key = some v := by
  obtain ⟨cell, registered, value⟩ := Option.bind_eq_some_iff.mp shown
  have old : first.value? cell = some v := by
    rw [← value]
    simp only [value?, unmade]
  obtain entry | late := from_first.origin cell registered
  · exact Option.bind_eq_some_iff.mpr ⟨cell, entry, old⟩
  · exact absurd (sound.values_used cell v old) (Nat.not_lt.mpr late)

theorem read_set {β : Type} {l : List β} {i j : Nat} {p q : β} (read : (l.set i p)[j]? = some q) :
    j = i ∧ q = p ∨ j ≠ i ∧ l[j]? = some q := by
  by_cases same : j = i
  · subst j
    have inside : i < l.length := by
      have bound := (List.getElem?_eq_some_iff.mp read).1
      simpa using bound
    simp only [List.getElem?_set_self inside, Option.some.injEq] at read
    exact .inl ⟨rfl, read.symm⟩
  · rw [List.getElem?_set_ne (Ne.symm same)] at read
    exact .inr ⟨same, read⟩

namespace Race

structure Orderly (a : Access ω κ α) (key : κ) (first : Registry κ α) (s : Race ω α) : Prop where
  descends : Descends key first (a.get s.world)
  used : ∀ (j : Nat) (p : Phase ω α) (cell : Nat), s.phases[j]? = some p → p.cell? = some cell →
    cell < (a.get s.world).next
  creators : ∀ j cell rest, s.phases[j]? = some (.creating cell rest) →
    (s.line cell).owner = some j ∧ (a.get s.world).value? cell = none ∧ rest.Quiet a
  waiters : ∀ j cell, s.phases[j]? = some (.waiting cell) → (a.get s.world).value? cell = none →
    (s.line cell).owner = some j ∨ j ∈ (s.line cell).queue
  settled : ∀ v, first.get? key = some v →
    (a.get s.world).get? key = some v ∧ ∀ (j : Nat) (p : Phase ω α), s.phases[j]? = some p → p.cell? = none

variable {a : Access ω κ α} {key : κ} {first r : Registry κ α} {s t : Race ω α} {i cell : Nat}

theorem Stands.inside (stands : Stands a key i s cell r) : i < s.phases.length := by
  cases stands with
  | newcomer phase _ => exact (List.getElem?_eq_some_iff.mp phase).1
  | waiter phase => exact (List.getElem?_eq_some_iff.mp phase).1
  | creator rest phase => exact (List.getElem?_eq_some_iff.mp phase).1

theorem Stands.values (stands : Stands a key i s cell r) : r.values = (a.get s.world).values := by
  cases stands with
  | newcomer _ _ => exact values_enter _ _
  | waiter _ => rfl
  | creator _ _ => rfl

theorem Stands.value (stands : Stands a key i s cell r) (other : Nat) : r.value? other = (a.get s.world).value? other := by
  simp only [value?, stands.values]

theorem Stands.next (stands : Stands a key i s cell r) : (a.get s.world).next ≤ r.next := by
  cases stands with
  | newcomer _ _ => exact next_enter _ _
  | waiter _ => exact Nat.le_refl _
  | creator _ _ => exact Nat.le_refl _

theorem Stands.descends (stands : Stands a key i s cell r) (order : Orderly a key first s) : Descends key first r := by
  cases stands with
  | newcomer _ _ => exact descends_enter key first _ order.descends
  | waiter _ => exact order.descends
  | creator _ _ => exact order.descends

theorem Stands.used (stands : Stands a key i s cell r) (order : Orderly a key first s) : cell < r.next := by
  cases stands with
  | newcomer _ entered =>
      rw [← entered]
      exact order.descends.sound.entered_used key
  | waiter phase => exact order.used i _ cell phase rfl
  | creator rest phase => exact order.used i _ cell phase rfl

theorem Stands.get (stands : Stands a key i s cell r) (sound : (a.get s.world).Sound) (other : κ) :
    r.get? other = (a.get s.world).get? other := by
  cases stands with
  | newcomer _ _ => exact sound.get_enter key other
  | waiter _ => rfl
  | creator _ _ => rfl

-- While the key had a value from the start, nobody stands at a vacant cell.
theorem Stands.first_none (stands : Stands a key i s cell r) (order : Orderly a key first s)
    (vacant : (a.get s.world).value? cell = none) : first.get? key = none := by
  cases had : first.get? key with
  | none => rfl
  | some v =>
      obtain ⟨shown, free⟩ := order.settled v had
      cases stands with
      | newcomer _ entered =>
          rw [← entered, order.descends.sound.value_entered key, shown] at vacant
          exact absurd vacant (by simp)
      | waiter phase => exact absurd (free i _ phase) (by simp [Phase.cell?])
      | creator rest phase => exact absurd (free i _ phase) (by simp [Phase.cell?])

omit [DecidableEq κ] in
theorem start_fresh {world : ω} {callers : List (Caller ω κ α)} {j : Nat} {p : Phase ω α}
    (read : (start world callers).phases[j]? = some p) : p = .fresh := by
  simp only [start, List.getElem?_map, Option.map_eq_some_iff] at read
  obtain ⟨_, _, eq⟩ := read
  exact eq.symm

theorem orderly_start (a : Access ω κ α) (key : κ) (world : ω) (callers : List (Caller ω κ α))
    (sound : (a.get world).Sound) : Orderly a key (a.get world) (start world callers) := by
  refine ⟨descends_first key _ sound, ?_, ?_, ?_, ?_⟩
  · intro j p cell read at_cell
    rw [start_fresh read] at at_cell
    exact absurd at_cell (by simp [Phase.cell?])
  · intro j cell rest read
    exact absurd (start_fresh read) (by simp)
  · intro j cell read
    exact absurd (start_fresh read) (by simp)
  · intro v had
    refine ⟨had, ?_⟩
    intro j p read
    rw [start_fresh read]
    rfl

def Creators (a : Access ω κ α) (s : Race ω α) : Prop :=
  ∀ j cell rest, s.phases[j]? = some (.creating cell rest) →
    (s.line cell).owner = some j ∧ (a.get s.world).value? cell = none ∧ rest.Quiet a

omit [DecidableEq κ] in
theorem Creators.kept (creators : Creators a s) (after : Registry κ α) (p : Phase ω α)
    (phases : t.phases = s.phases.set i p) (registry : a.get t.world = after)
    (others : ∀ j other, j ≠ i → (s.line other).owner = some j →
      (t.line other).owner = some j ∧ after.value? other = (a.get s.world).value? other)
    (own : ∀ mine rest, p = .creating mine rest → (t.line mine).owner = some i ∧ after.value? mine = none ∧ rest.Quiet a) :
    Creators a t := by
  intro j other rest read
  rw [registry]
  rw [phases] at read
  obtain ⟨rfl, same⟩ | ⟨apart, before⟩ := read_set read
  · exact own other rest same.symm
  · obtain ⟨owner, vacant, quiet⟩ := creators j other rest before
    obtain ⟨stays, value⟩ := others j other apart owner
    exact ⟨stays, value.trans vacant, quiet⟩

theorem Worksite.owner_elsewhere (site : Worksite a key i s cell r) {j other : Nat} (apart : j ≠ i)
    (owner : (s.line other).owner = some j) : other ≠ cell := by
  rintro rfl
  obtain free | mine := site.free
  · exact absurd (free.symm.trans owner) (by simp)
  · exact apart (Option.some.inj (owner.symm.trans mine))

theorem creators_turn {callers : List (Caller ω κ α)} (creators : Creators a s) (deed : Deed a callers key i s t) :
    Creators a t := by
  cases deed with
  | idle _ same =>
      rw [same]
      exact creators
  | found cell v r _ stands value registry lines phases =>
      refine creators.kept r _ phases registry ?_ (by simp)
      intro j other _ owner
      rw [lines, stands.value]
      exact ⟨owner, rfl⟩
  | joined cell r _ stands vacant registry line lines phases =>
      refine creators.kept r _ phases registry ?_ (by simp)
      intro j other _ owner
      rw [stands.value]
      by_cases same : other = cell
      · subst other
        rw [line]
        exact ⟨owner, rfl⟩
      · rw [lines other same]
        exact ⟨owner, rfl⟩
  | paused cell r rest _ site quiet registry owner queue lines phases =>
      refine creators.kept r _ phases registry ?_ ?_
      · intro j other apart held
        rw [lines other (site.owner_elsewhere apart held), site.stands.value]
        exact ⟨held, rfl⟩
      · intro mine more at_cell
        have same : cell = mine ∧ rest = more := by simpa using at_cell
        rw [← same.1, ← same.2, site.stands.value]
        exact ⟨owner, site.vacant, quiet⟩
  | made cell r v _ site registry lines phases =>
      refine creators.kept _ _ phases registry ?_ (by simp)
      intro j other apart held
      have elsewhere := site.owner_elsewhere apart held
      rw [lines other elsewhere, value_fill, if_neg elsewhere, site.stands.value]
      exact ⟨held, rfl⟩
  | failed cell r e _ site registry owner queue lines phases =>
      refine creators.kept _ _ phases registry ?_ (by simp)
      intro j other apart held
      rw [lines other (site.owner_elsewhere apart held), value_abandon, site.stands.value]
      exact ⟨held, rfl⟩

theorem used_kept (order : Orderly a key first s) (after : Registry κ α) (p : Phase ω α)
    (phases : t.phases = s.phases.set i p) (registry : a.get t.world = after)
    (grown : (a.get s.world).next ≤ after.next) (own : ∀ mine, p.cell? = some mine → mine < after.next) :
    ∀ (j : Nat) (q : Phase ω α) (other : Nat), t.phases[j]? = some q → q.cell? = some other →
      other < (a.get t.world).next := by
  intro j q other read at_cell
  rw [registry]
  rw [phases] at read
  obtain ⟨_, same⟩ | ⟨_, before⟩ := read_set read
  · exact own other (same ▸ at_cell)
  · exact Nat.lt_of_lt_of_le (order.used j q other before at_cell) grown

theorem settled_kept (order : Orderly a key first s) (after : Registry κ α) (p : Phase ω α)
    (phases : t.phases = s.phases.set i p) (registry : a.get t.world = after)
    (kept : ∀ v, first.get? key = some v → after.get? key = some v ∧ p.cell? = none) :
    ∀ v, first.get? key = some v →
      (a.get t.world).get? key = some v ∧ ∀ (j : Nat) (q : Phase ω α), t.phases[j]? = some q → q.cell? = none := by
  intro v had
  obtain ⟨shown, free⟩ := kept v had
  rw [registry]
  refine ⟨shown, ?_⟩
  intro j q read
  rw [phases] at read
  obtain ⟨_, same⟩ | ⟨_, before⟩ := read_set read
  · rw [same]
    exact free
  · exact (order.settled v had).2 j q before

theorem waiters_kept (order : Orderly a key first s) (cell : Nat) (after : Registry κ α) (p : Phase ω α)
    (phases : t.phases = s.phases.set i p) (registry : a.get t.world = after)
    (values : ∀ other, after.value? other = none → (a.get s.world).value? other = none)
    (lines : ∀ other, other ≠ cell → t.line other = s.line other)
    (here : ∀ j, j ≠ i → after.value? cell = none → (s.line cell).owner = some j ∨ j ∈ (s.line cell).queue →
      (t.line cell).owner = some j ∨ j ∈ (t.line cell).queue)
    (own : ∀ mine, p = .waiting mine → i ∈ (t.line mine).queue) :
    ∀ j other : Nat, t.phases[j]? = some (.waiting other) → (a.get t.world).value? other = none →
      (t.line other).owner = some j ∨ j ∈ (t.line other).queue := by
  intro j other read vacant
  rw [registry] at vacant
  rw [phases] at read
  obtain ⟨rfl, same⟩ | ⟨apart, before⟩ := read_set read
  · exact .inr (own other same.symm)
  · have stood := order.waiters j other before (values other vacant)
    by_cases same : other = cell
    · subst other
      exact here j apart vacant stood
    · rw [lines other same]
      exact stood

theorem Worksite.queued (site : Worksite a key i s cell r) {j : Nat} (apart : j ≠ i)
    (stood : (s.line cell).owner = some j ∨ j ∈ (s.line cell).queue) : j ∈ (s.line cell).queue := by
  obtain owner | waits := stood
  · exact absurd rfl (site.owner_elsewhere apart owner)
  · exact waits

theorem Worksite.first_none (site : Worksite a key i s cell r) (order : Orderly a key first s) :
    first.get? key = none :=
  site.stands.first_none order site.vacant

theorem orderly_turn {callers : List (Caller ω κ α)} (order : Orderly a key first s)
    (deed : Deed a callers key i s t) : Orderly a key first t := by
  have creators : Creators a t := creators_turn order.creators deed
  cases deed with
  | idle _ same =>
      rw [same]
      exact order
  | found cell v r _ stands value registry lines phases =>
      have from_first := stands.descends order
      refine ⟨registry ▸ from_first, used_kept order r _ phases registry stands.next (by simp [Phase.cell?]), creators, ?_, ?_⟩
      · refine waiters_kept order cell r _ phases registry ?_ (fun other _ => by rw [lines]) ?_ (by simp)
        · intro other vacant
          rwa [stands.value] at vacant
        · intro j _ _ stood
          rwa [lines]
      · refine settled_kept order r _ phases registry ?_
        intro v had
        rw [stands.get order.descends.sound]
        exact ⟨(order.settled v had).1, rfl⟩
  | joined cell r _ stands vacant registry line lines phases =>
      have from_first := stands.descends order
      refine ⟨registry ▸ from_first, used_kept order r _ phases registry stands.next ?_, creators, ?_, ?_⟩
      · intro mine at_cell
        have same : cell = mine := Option.some.inj at_cell
        exact same ▸ stands.used order
      · refine waiters_kept order cell r _ phases registry ?_ lines ?_ ?_
        · intro other empty
          rwa [stands.value] at empty
        · intro j _ _ stood
          rw [line]
          exact stood.imp_right (List.mem_append_left _)
        · intro mine at_cell
          have same : cell = mine := by simpa using at_cell
          rw [← same, line]
          simp
      · refine settled_kept order r _ phases registry ?_
        intro v had
        exact absurd (had.symm.trans (stands.first_none order vacant)) (by simp)
  | paused cell r rest _ site quiet registry owner queue lines phases =>
      have from_first := site.stands.descends order
      refine ⟨registry ▸ from_first, used_kept order r _ phases registry site.stands.next ?_, creators, ?_, ?_⟩
      · intro mine at_cell
        have same : cell = mine := Option.some.inj at_cell
        exact same ▸ site.stands.used order
      · refine waiters_kept order cell r _ phases registry ?_ lines ?_ (by simp)
        · intro other empty
          rwa [site.stands.value] at empty
        · intro j apart _ stood
          rw [queue]
          exact .inr (site.queued apart stood)
      · refine settled_kept order r _ phases registry ?_
        intro v had
        exact absurd (had.symm.trans (site.first_none order)) (by simp)
  | made cell r v _ site registry lines phases =>
      have from_first := site.stands.descends order
      have filled : Descends key first (r.fill cell v) :=
        descends_fill key first r from_first cell v (site.stands.used order)
      refine ⟨registry ▸ filled, used_kept order _ _ phases registry site.stands.next (by simp [Phase.cell?]), creators, ?_, ?_⟩
      · refine waiters_kept order cell _ _ phases registry ?_ lines ?_ (by simp)
        · intro other empty
          rw [value_fill] at empty
          split at empty
          · exact absurd empty (by simp)
          · rwa [site.stands.value] at empty
        · intro j _ empty _
          rw [value_fill, if_pos rfl] at empty
          exact absurd empty (by simp)
      · refine settled_kept order _ _ phases registry ?_
        intro u had
        exact absurd (had.symm.trans (site.first_none order)) (by simp)
  | failed cell r e _ site registry owner queue lines phases =>
      have from_first := site.stands.descends order
      have left : Descends key first (r.abandon key cell) := descends_abandon key first r from_first cell
      refine ⟨registry ▸ left, used_kept order _ _ phases registry ?_ (by simp [Phase.cell?]), creators, ?_, ?_⟩
      · rw [next_abandon]
        exact site.stands.next
      · refine waiters_kept order cell _ _ phases registry ?_ lines ?_ (by simp)
        · intro other empty
          rwa [value_abandon, site.stands.value] at empty
        · intro j apart _ stood
          have waits := site.queued apart stood
          rw [owner, queue]
          -- The head of the line takes over and the others move up.
          cases line : (s.line cell).queue with
          | nil => rw [line] at waits; exact absurd waits (by simp)
          | cons head tail =>
              rw [line] at waits
              simpa [eq_comm] using waits
      · refine settled_kept order _ _ phases registry ?_
        intro v had
        exact absurd (had.symm.trans (site.first_none order)) (by simp)

end Race
end RemoteExec.Registry

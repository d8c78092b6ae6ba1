import RemoteExec.Proofs.Registry.Order
import RemoteExec.Identity
import RemoteExec.Registry.Makers
/-!
When callers who ask for one key at the same time are served by one creation. A creation that fails takes
its cell out of the registry; those who waited for it go on in that cell, where nobody who comes later
looks. All is well as long as such creations fail too and run alone.
-/
namespace RemoteExec.Registry.Race

variable {ω κ α : Type} [DecidableEq κ]

-- What a registry promises of a turn: nobody works on a creation while another one is under way, all
-- creations since the start gave one value at most, and whoever is done with a value has just the one
-- that the registry shows.
structure Serialized (a : Access ω κ α) (callers : List (Caller ω κ α)) (key : κ) (first : Registry κ α)
    (s : Race ω α) (i : Nat) : Prop where
  alone : ∀ cell, works a callers s i = some cell →
    ∀ (j other : Nat) (rest : Creation ω α), s.phases[j]? = some (.creating other rest) → j = i
  once : ∃ made, (a.get (turn a callers s i).world).values = made ++ first.values ∧ made.length ≤ 1 ∧
    ∀ (j : Nat) (v : α), (turn a callers s i).phases[j]? = some (.done (.ok v)) →
      (a.get (turn a callers s i).world).get? key = some v ∧ (∀ m ∈ made, m.2 = v) ∧
        (made = [] → first.get? key = some v)

-- Caller `i` stands at a cell to which the registry does not lead any more.
def Stray (a : Access ω κ α) (key : κ) (s : Race ω α) (i cell : Nat) : Prop :=
  s.phases[i]?.bind Phase.cell? = some cell ∧ (a.get s.world).cell? key ≠ some cell

-- Creations in stray cells do no harm in a turn: they give no value, and none of them runs beside another.
structure Harmless (a : Access ω κ α) (callers : List (Caller ω κ α)) (key : κ) (s : Race ω α) (i : Nat) : Prop where
  fails : ∀ cell, works a callers s i = some cell → Stray a key s i cell →
    ∀ v : α, (turn a callers s i).phases[i]? ≠ some (.done (.ok v))
  alone : ∀ cell, works a callers s i = some cell → Stray a key s i cell →
    ∀ (j other : Nat) (rest : Creation ω α), s.phases[j]? = some (.creating other rest) → j = i
  undisturbed : ∀ cell, works a callers s i = some cell →
    ∀ (j other : Nat) (rest : Creation ω α), s.phases[j]? = some (.creating other rest) → Stray a key s j other → j = i

def Unattended (a : Access ω κ α) (callers : List (Caller ω κ α)) (s : Race ω α) (i : Nat) : Prop :=
  ∀ (cell : Nat) (e : Failure), works a callers s i = some cell →
    (turn a callers s i).phases[i]? = some (.done (.error e)) → (s.line cell).queue = []

variable {a : Access ω κ α} {key : κ} {first r : Registry κ α} {s t : Race ω α} {i cell : Nat}

theorem Stands.registered_or_stray (stands : Stands a key i s cell r) :
    r.cell? key = some cell ∨ Stray a key s i cell ∧ r = a.get s.world := by
  cases stands with
  | newcomer _ entered =>
      rw [cell_enter, if_pos rfl, entered]
      exact .inl rfl
  | waiter phase =>
      by_cases registered : (a.get s.world).cell? key = some cell
      · exact .inl registered
      · exact .inr ⟨⟨by simp [phase, Phase.cell?], registered⟩, rfl⟩
  | creator rest phase =>
      by_cases registered : (a.get s.world).cell? key = some cell
      · exact .inl registered
      · exact .inr ⟨⟨by simp [phase, Phase.cell?], registered⟩, rfl⟩

theorem Stands.stray_entered (stands : Stands a key i s cell r) {other : Nat} (stray : Stray a key s i other) :
    r = a.get s.world := by
  cases stands with
  | newcomer phase _ => exact absurd stray.1 (by simp [phase, Phase.cell?])
  | waiter _ => rfl
  | creator _ _ => rfl

theorem Stands.keeps_cell (stands : Stands a key i s cell r) {other : Nat}
    (registered : (a.get s.world).cell? key = some other) : r.cell? key = some other := by
  cases stands with
  | newcomer _ _ =>
      rw [enter_known _ key other registered]
      exact registered
  | waiter _ => exact registered
  | creator _ _ => exact registered

theorem harmless_of_serialized {callers : List (Caller ω κ α)} (sound : first.Sound) (order : Orderly a key first s)
    (deed : Deed a callers key i s (turn a callers s i)) (promise : Serialized a callers key first s i) :
    Harmless a callers key s i := by
  refine ⟨?_, fun cell on _ => promise.alone cell on, fun cell on j other rest busy _ => promise.alone cell on j other rest busy⟩
  intro cell on stray v given
  cases deed with
  | idle off _ => exact absurd (on.symm.trans off) (by simp)
  | found _ _ _ off _ _ _ _ _ => exact absurd (on.symm.trans off) (by simp)
  | joined _ _ off _ _ _ _ _ _ => exact absurd (on.symm.trans off) (by simp)
  | paused mine r rest _ site _ _ _ _ _ phases =>
      rw [phases, List.getElem?_set_self site.stands.inside] at given
      exact absurd given (by simp)
  | failed mine r e _ site _ _ _ _ phases =>
      rw [phases, List.getElem?_set_self site.stands.inside] at given
      exact absurd given (by simp)
  | made mine r u at_mine site registry _ phases =>
      have same : mine = cell := Option.some.inj (at_mine.symm.trans on)
      subst mine
      have entered := site.stands.stray_entered stray
      obtain ⟨made, grown, few, served⟩ := promise.once
      obtain ⟨before, earlier⟩ := order.descends.grown
      obtain ⟨shown, _, _⟩ := served i v given
      -- This creation is the only one that gave a value.
      have unmade : before = [] := by
        have sizes := congrArg List.length grown
        simp only [registry, entered, fill, earlier, List.length_cons, List.length_append] at sizes
        exact List.eq_nil_of_length_eq_zero (by omega)
      obtain ⟨other, leads, value⟩ := Option.bind_eq_some_iff.mp shown
      rw [registry, entered, cell_fill] at leads
      have apart : other ≠ cell := fun eq => stray.2 (eq ▸ leads)
      rw [registry, entered, value_fill, if_neg apart] at value
      have visible : (a.get s.world).get? key = some v := Option.bind_eq_some_iff.mpr ⟨other, leads, value⟩
      have had := descends_unmade order.descends sound (by simp [earlier, unmade]) visible
      exact absurd (had.symm.trans (site.first_none order)) (by simp)

-- Why the promise is kept as long as stray creations do no harm: what was made is in the registered cell.
structure Shared (a : Access ω κ α) (key : κ) (first : Registry κ α) (s : Race ω α) : Prop where
  made : ∃ made, (a.get s.world).values = made ++ first.values ∧ made.length ≤ 1 ∧
    ∀ m ∈ made, (a.get s.world).cell? key = some m.1
  got : ∀ (j : Nat) (v : α), s.phases[j]? = some (.done (.ok v)) → (a.get s.world).get? key = some v
  shown : ∀ (j other : Nat) (v : α), s.phases[j]? = some (.waiting other) → (a.get s.world).value? other = some v →
    (a.get s.world).cell? key = some other

theorem shared_start (a : Access ω κ α) (key : κ) (world : ω) (callers : List (Caller ω κ α)) :
    Shared a key (a.get world) (start world callers) := by
  refine ⟨⟨[], rfl, by simp, by simp⟩, ?_, ?_⟩
  · intro j v read
    exact absurd (start_fresh read) (by simp)
  · intro j other v read
    exact absurd (start_fresh read) (by simp)

theorem shared_kept (shared : Shared a key first s) (after : Registry κ α) (p : Phase ω α)
    (phases : t.phases = s.phases.set i p) (registry : a.get t.world = after)
    (values : after.values = (a.get s.world).values)
    (leads : ∀ other, (a.get s.world).cell? key = some other → (a.get s.world).value? other ≠ none →
      after.cell? key = some other)
    (done : ∀ v, p = .done (.ok v) → after.get? key = some v)
    (waits : ∀ other v, p = .waiting other → (a.get s.world).value? other = some v → after.cell? key = some other) :
    Shared a key first t := by
  have same : ∀ other, after.value? other = (a.get s.world).value? other := by
    intro other
    simp only [value?, values]
  obtain ⟨made, grown, few, where_made⟩ := shared.made
  refine ⟨⟨made, by rw [registry, values, grown], few, ?_⟩, ?_, ?_⟩
  · intro m listed
    rw [registry]
    exact leads m.1 (where_made m listed) (value_of_mem (by rw [grown]; exact List.mem_append_left _ listed))
  · intro j v read
    rw [registry]
    rw [phases] at read
    obtain ⟨_, eq⟩ | ⟨_, before⟩ := read_set read
    · exact done v eq.symm
    · obtain ⟨other, entry, value⟩ := Option.bind_eq_some_iff.mp (shared.got j v before)
      refine Option.bind_eq_some_iff.mpr ⟨other, leads other entry (by simp [value]), ?_⟩
      rw [same]
      exact value
  · intro j other v read value
    rw [registry] at value ⊢
    rw [same] at value
    rw [phases] at read
    obtain ⟨_, eq⟩ | ⟨_, before⟩ := read_set read
    · exact waits other v eq.symm value
    · exact leads other (shared.shown j other v before value) (by simp [value])

theorem shared_turn {callers : List (Caller ω κ α)} (order : Orderly a key first s) (shared : Shared a key first s)
    (deed : Deed a callers key i s (turn a callers s i)) (harmless : Harmless a callers key s i) :
    Shared a key first (turn a callers s i) := by
  cases deed with
  | idle _ same =>
      rw [same]
      exact shared
  | found cell v r _ stands value registry _ phases =>
      refine shared_kept shared r _ phases registry stands.values (fun _ entry _ => stands.keeps_cell entry) ?_ (by simp)
      intro u given
      have same : v = u := by simpa using given
      have leads : r.cell? key = some cell := by
        cases stands with
        | newcomer _ entered => rw [cell_enter, if_pos rfl, entered]
        | waiter phase => exact shared.shown i cell v phase value
        | creator rest phase => exact absurd ((order.creators i cell rest phase).2.1.symm.trans value) (by simp)
      exact Option.bind_eq_some_iff.mpr ⟨cell, leads, by rw [stands.value, value, same]⟩
  | joined cell r _ stands vacant registry _ _ phases =>
      refine shared_kept shared r _ phases registry stands.values (fun _ entry _ => stands.keeps_cell entry) (by simp) ?_
      intro other v at_cell value
      have same : cell = other := by simpa using at_cell
      rw [← same, vacant] at value
      exact absurd value (by simp)
  | paused cell r rest _ site _ registry _ _ _ phases =>
      exact shared_kept shared r _ phases registry site.stands.values (fun _ entry _ => site.stands.keeps_cell entry)
        (by simp) (by simp)
  | failed cell r e _ site registry _ _ _ phases =>
      refine shared_kept shared _ _ phases registry (by rw [values_abandon, site.stands.values]) ?_ (by simp) (by simp)
      intro other entry filled
      have leads := site.stands.keeps_cell entry
      rw [cell_abandon, if_neg]
      · exact leads
      · rintro ⟨_, here, _⟩
        have same : other = cell := Option.some.inj (leads.symm.trans here)
        exact filled (same ▸ site.vacant)
  | made cell r v on site registry _ phases =>
      have given : (turn a callers s i).phases[i]? = some (.done (.ok v)) := by
        rw [phases]
        exact List.getElem?_set_self site.stands.inside
      have leads : r.cell? key = some cell := by
        obtain registered | ⟨stray, _⟩ := site.stands.registered_or_stray
        · exact registered
        · exact absurd given (harmless.fails cell on stray v)
      -- The registered cell was vacant, so nothing was shown before.
      have unshown : ∀ other, (a.get s.world).cell? key = some other → (a.get s.world).value? other = none := by
        intro other entry
        have same : other = cell := Option.some.inj ((site.stands.keeps_cell entry).symm.trans leads)
        exact same ▸ site.vacant
      obtain ⟨made, grown, _, where_made⟩ := shared.made
      have unmade : made = [] := by
        cases made with
        | nil => rfl
        | cons m rest =>
            have vacant := unshown m.1 (where_made m (by simp))
            exact absurd vacant (value_of_mem (by simp [grown]))
      refine ⟨⟨[(cell, v)], ?_, by simp, ?_⟩, ?_, ?_⟩
      · rw [registry]
        simp [fill, site.stands.values, grown, unmade]
      · intro m listed
        have same : m = (cell, v) := by simpa using listed
        rw [registry, cell_fill, same]
        exact leads
      · intro j u read
        rw [registry]
        rw [phases] at read
        obtain ⟨_, eq⟩ | ⟨_, before⟩ := read_set read
        · have same : u = v := by simpa using eq
          exact Option.bind_eq_some_iff.mpr ⟨cell, leads, by rw [value_fill, if_pos rfl, same]⟩
        · obtain ⟨other, entry, value⟩ := Option.bind_eq_some_iff.mp (shared.got j u before)
          exact absurd ((unshown other entry).symm.trans value) (by simp)
      · intro j other u read value
        rw [registry] at value ⊢
        rw [phases] at read
        obtain ⟨_, eq⟩ | ⟨_, before⟩ := read_set read
        · exact absurd eq (by simp)
        · by_cases same : other = cell
          · rw [same]
            exact leads
          · rw [value_fill, if_neg same, site.stands.value] at value
            exact absurd ((unshown other (shared.shown j other u before value)).symm.trans value) (by simp)

theorem alone_of_harmless {callers : List (Caller ω κ α)} (order : Orderly a key first s)
    (deed : Deed a callers key i s (turn a callers s i)) (harmless : Harmless a callers key s i) (on : works a callers s i = some cell)
    (j other : Nat) (rest : Creation ω α) (busy : s.phases[j]? = some (.creating other rest)) : j = i := by
  have site : ∃ r, Worksite a key i s cell r := by
    cases deed with
    | idle off _ => exact absurd (on.symm.trans off) (by simp)
    | found _ _ _ off _ _ _ _ _ => exact absurd (on.symm.trans off) (by simp)
    | joined _ _ off _ _ _ _ _ _ => exact absurd (on.symm.trans off) (by simp)
    | paused mine r _ here site _ _ _ _ _ _ => exact ⟨r, Option.some.inj (here.symm.trans on) ▸ site⟩
    | made mine r _ here site _ _ _ => exact ⟨r, Option.some.inj (here.symm.trans on) ▸ site⟩
    | failed mine r _ here site _ _ _ _ _ => exact ⟨r, Option.some.inj (here.symm.trans on) ▸ site⟩
  obtain ⟨r, site⟩ := site
  by_cases same : j = i
  · exact same
  · have apart := site.owner_elsewhere same (order.creators j other rest busy).1
    obtain registered | ⟨stray, _⟩ := site.stands.registered_or_stray
    · -- Two cells cannot both be the registered one.
      have strays : (a.get s.world).cell? key ≠ some other := by
        intro entry
        exact apart (Option.some.inj ((site.stands.keeps_cell entry).symm.trans registered))
      exact harmless.undisturbed cell on j other rest busy ⟨by simp [busy, Phase.cell?], strays⟩
    · exact harmless.alone cell on stray j other rest busy

theorem serialized_of_harmless {callers : List (Caller ω κ α)} (sound : first.Sound) (order : Orderly a key first s)
    (shared : Shared a key first s) (deed : Deed a callers key i s (turn a callers s i))
    (harmless : Harmless a callers key s i) : Serialized a callers key first s i := by
  refine ⟨fun cell on => alone_of_harmless order deed harmless on, ?_⟩
  have next := shared_turn order shared deed harmless
  obtain ⟨made, grown, few, where_made⟩ := next.made
  refine ⟨made, grown, few, ?_⟩
  intro j v done
  have shown := next.got j v done
  refine ⟨shown, ?_, ?_⟩
  · intro m listed
    have visible : (a.get (turn a callers s i).world).get? key = some m.2 :=
      Option.bind_eq_some_iff.mpr ⟨m.1, where_made m listed, value_of_single grown few listed⟩
    exact Option.some.inj (visible.symm.trans shown)
  · intro unmade
    exact descends_unmade (orderly_turn order deed).descends sound (by simp [grown, unmade]) shown

def Attached (a : Access ω κ α) (key : κ) (s : Race ω α) : Prop :=
  ∀ (j : Nat) (p : Phase ω α) (cell : Nat), s.phases[j]? = some p → p.cell? = some cell → (a.get s.world).cell? key = some cell

theorem harmless_of_attached {callers : List (Caller ω κ α)} (attached : Attached a key s) : Harmless a callers key s i := by
  have never : ∀ j cell, ¬ Stray a key s j cell := by
    rintro j cell ⟨at_cell, lost⟩
    obtain ⟨p, phase, here⟩ := Option.bind_eq_some_iff.mp at_cell
    exact lost (attached j p cell phase here)
  exact ⟨fun cell _ stray => absurd stray (never i cell), fun cell _ stray => absurd stray (never i cell),
    fun _ _ j other _ _ stray => absurd stray (never j other)⟩

theorem attached_turn {callers : List (Caller ω κ α)} (order : Orderly a key first s) (attached : Attached a key s)
    (deed : Deed a callers key i s (turn a callers s i)) (unattended : Unattended a callers s i) :
    Attached a key (turn a callers s i) := by
  have registered : ∀ {cell : Nat} {r : Registry κ α}, Stands a key i s cell r → r.cell? key = some cell := by
    intro cell r stands
    obtain leads | ⟨⟨at_cell, lost⟩, _⟩ := stands.registered_or_stray
    · exact leads
    · obtain ⟨p, phase, here⟩ := Option.bind_eq_some_iff.mp at_cell
      exact absurd (attached i p cell phase here) lost
  have moved : ∀ {cell : Nat} {r : Registry κ α} {p : Phase ω α}, Stands a key i s cell r →
      (a.get (turn a callers s i).world).cell? key = r.cell? key →
      (turn a callers s i).phases = s.phases.set i p → (∀ mine, p.cell? = some mine → mine = cell) →
      Attached a key (turn a callers s i) := by
    intro cell r p stands entry phases own j q other read at_cell
    rw [entry]
    rw [phases] at read
    obtain ⟨_, same⟩ | ⟨_, before⟩ := read_set read
    · rw [own other (same ▸ at_cell)]
      exact registered stands
    · exact stands.keeps_cell (attached j q other before at_cell)
  cases deed with
  | idle _ same =>
      rw [same]
      exact attached
  | found cell v r _ stands _ registry _ phases =>
      exact moved stands (by rw [registry]) phases (by simp [Phase.cell?])
  | joined cell r _ stands _ registry _ _ phases =>
      exact moved stands (by rw [registry]) phases (by simp [Phase.cell?])
  | paused cell r rest _ site _ registry _ _ _ phases =>
      exact moved site.stands (by rw [registry]) phases (by simp [Phase.cell?])
  | made cell r v _ site registry _ phases =>
      exact moved site.stands (by rw [registry, cell_fill]) phases (by simp [Phase.cell?])
  | failed cell r e on site registry _ _ _ phases =>
      have ended : (turn a callers s i).phases[i]? = some (.done (.error e)) := by
        rw [phases]
        exact List.getElem?_set_self site.stands.inside
      have queue := unattended cell e on ended
      intro j p other read at_cell
      rw [phases] at read
      obtain ⟨_, same⟩ | ⟨apart, before⟩ := read_set read
      · exact absurd (same ▸ at_cell) (by simp [Phase.cell?])
      · -- Another one would stand at the same cell, but its line is empty.
        have leads := site.stands.keeps_cell (attached j p other before at_cell)
        have same : other = cell := Option.some.inj (leads.symm.trans (registered site.stands))
        subst other
        have stood : (s.line cell).owner = some j ∨ j ∈ (s.line cell).queue := by
          cases p with
          | fresh => exact absurd at_cell (by simp [Phase.cell?])
          | done outcome => exact absurd at_cell (by simp [Phase.cell?])
          | waiting mine =>
              have here : mine = cell := by simpa [Phase.cell?] using at_cell
              exact order.waiters j cell (here ▸ before) site.vacant
          | creating mine rest =>
              have here : mine = cell := by simpa [Phase.cell?] using at_cell
              exact .inl (order.creators j cell rest (here ▸ before)).1
        have waits := site.queued apart stood
        rw [queue] at waits
        exact absurd waits (by simp)

structure Asking (a : Access ω κ α) (callers : List (Caller ω κ α)) (key : κ) : Prop where
  lawful : a.Lawful
  quiet : ∀ c ∈ callers, c.Quiet a
  keyed : ∀ c ∈ callers, c.key = key

theorem asking_deed {callers : List (Caller ω κ α)} (asking : Asking a callers key) (order : Orderly a key first s)
    (i : Nat) : Deed a callers key i s (turn a callers s i) :=
  turn_deed a asking.lawful callers key asking.quiet asking.keyed i s (order.creators i)

theorem throughout_harmless {callers : List (Caller ω κ α)} (asking : Asking a callers key) (sound : first.Sound)
    (schedule : List Nat) (s : Race ω α) (order : Orderly a key first s)
    (kept : Throughout a callers (Serialized a callers key first) s schedule) :
    Throughout a callers (Harmless a callers key) s schedule := by
  induction schedule generalizing s with
  | nil => trivial
  | cons i rest ih =>
      have deed := asking_deed asking order i
      exact ⟨harmless_of_serialized sound order deed kept.1, ih _ (orderly_turn order deed) kept.2⟩

theorem throughout_serialized {callers : List (Caller ω κ α)} (asking : Asking a callers key) (sound : first.Sound)
    (schedule : List Nat) (s : Race ω α) (order : Orderly a key first s) (shared : Shared a key first s)
    (harmless : Throughout a callers (Harmless a callers key) s schedule) :
    Throughout a callers (Serialized a callers key first) s schedule := by
  induction schedule generalizing s with
  | nil => trivial
  | cons i rest ih =>
      have deed := asking_deed asking order i
      exact ⟨serialized_of_harmless sound order shared deed harmless.1,
        ih _ (orderly_turn order deed) (shared_turn order shared deed harmless.1) harmless.2⟩

theorem throughout_unattended {callers : List (Caller ω κ α)} (asking : Asking a callers key)
    (schedule : List Nat) (s : Race ω α) (order : Orderly a key first s) (attached : Attached a key s)
    (unattended : Throughout a callers (Unattended a callers) s schedule) :
    Throughout a callers (Harmless a callers key) s schedule := by
  induction schedule generalizing s with
  | nil => trivial
  | cons i rest ih =>
      have deed := asking_deed asking order i
      exact ⟨harmless_of_attached attached,
        ih _ (orderly_turn order deed) (attached_turn order attached deed unattended.1) unattended.2⟩

theorem attached_start (world : ω) (callers : List (Caller ω κ α)) : Attached a key (start world callers) := by
  intro j p cell read at_cell
  rw [start_fresh read] at at_cell
  exact absurd at_cell (by simp [Phase.cell?])

theorem serialized_iff_harmless (a : Access ω κ α) (callers : List (Caller ω κ α)) (key : κ)
    (asking : Asking a callers key) (world : ω) (sound : (a.get world).Sound) (schedule : List Nat) :
    (Throughout a callers (Serialized a callers key (a.get world)) (start world callers) schedule ↔
      Throughout a callers (Harmless a callers key) (start world callers) schedule) ∧
    (Throughout a callers (Unattended a callers) (start world callers) schedule →
      Throughout a callers (Serialized a callers key (a.get world)) (start world callers) schedule) := by
  have order := orderly_start a key world callers sound
  have shared := shared_start a key world callers
  refine ⟨⟨throughout_harmless asking sound schedule _ order, throughout_serialized asking sound schedule _ order shared⟩, ?_⟩
  intro unattended
  have harmless := throughout_unattended asking schedule _ order (attached_start world callers) unattended
  exact throughout_serialized asking sound schedule _ order shared harmless

omit [DecidableEq κ] in
theorem pausing_quiet (outcome : Except Failure α) (pauses : Nat) :
    (Maker.pausing outcome pauses : Creation (Counted κ α) α).Quiet Maker.access := by
  induction pauses with
  | zero => exact .last _ (fun _ => rfl)
  | succ n ih =>
      refine .pause _ (fun _ => rfl) ?_
      rintro w c ⟨⟩
      exact ih

omit [DecidableEq κ] in
theorem maker_quiet (key : κ) (m : Maker α) : (m.caller key).Quiet Maker.access := by
  refine ⟨fun _ => rfl, ?_, fun _ _ => rfl⟩
  unfold Maker.caller Maker.creation
  cases m.pauses with
  | zero => exact .last _ (fun _ => rfl)
  | succ n =>
      refine .pause _ (fun _ => rfl) ?_
      rintro w c ⟨⟩
      exact pausing_quiet m.outcome n

omit [DecidableEq κ] in
theorem makers_ask (key : κ) (makers : List (Maker α)) : Asking Maker.access (makers.map (Maker.caller key)) key := by
  refine ⟨fun _ _ => rfl, ?_, ?_⟩
  · intro c listed
    obtain ⟨m, _, rfl⟩ := List.mem_map.mp listed
    exact maker_quiet key m
  · intro c listed
    obtain ⟨m, _, rfl⟩ := List.mem_map.mp listed
    rfl

def deployer : Identity := ⟨"web01", "deploy"⟩

def asks (makers : List (Maker String)) : List (Caller (Counted Identity String) Identity String) :=
  makers.map (Maker.caller deployer)

def lateComers : List (Maker String) := [⟨0, .error (.connection "refused")⟩, ⟨1, .ok "a"⟩, ⟨0, .ok "b"⟩]

theorem serialized_late_comers :
    Asking Maker.access (asks lateComers) deployer ∧ (empty : Registry Identity String).Sound ∧
    Throughout Maker.access (asks lateComers) (Unattended Maker.access (asks lateComers))
      (start ⟨empty, 0⟩ (asks lateComers)) [0, 1, 2, 1, 2] ∧
    Throughout Maker.access (asks lateComers) (Serialized Maker.access (asks lateComers) deployer empty)
      (start ⟨empty, 0⟩ (asks lateComers)) [0, 1, 2, 1, 2] := by
  have unattended : Throughout Maker.access (asks lateComers) (Unattended Maker.access (asks lateComers))
      (start ⟨empty, 0⟩ (asks lateComers)) [0, 1, 2, 1, 2] := by
    refine ⟨fun _ _ _ _ => rfl, ?_, ?_, ?_, ?_, trivial⟩
    · rintro cell e _ ⟨⟩
    · rintro cell e _ ⟨⟩
    · rintro cell e _ ⟨⟩
    · rintro cell e _ ⟨⟩
  have asking := makers_ask deployer lateComers
  exact ⟨asking, empty_sound, unattended,
    (serialized_iff_harmless Maker.access (asks lateComers) deployer asking ⟨empty, 0⟩ empty_sound [0, 1, 2, 1, 2]).2 unattended⟩

def takeOver : List (Maker String) := [⟨1, .error (.connection "refused")⟩, ⟨0, .ok "b"⟩]

theorem take_over_unserialized :
    ¬ Throughout Maker.access (asks takeOver) (Serialized Maker.access (asks takeOver) deployer empty)
      (start ⟨empty, 0⟩ (asks takeOver)) [0, 1, 0, 1] := by
  rintro ⟨_, _, _, last, _⟩
  obtain ⟨_, _, _, served⟩ := last.once
  have shown := (served 1 "b" rfl).1
  exact absurd shown (by decide)

end RemoteExec.Registry.Race

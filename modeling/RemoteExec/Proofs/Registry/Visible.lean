import RemoteExec.Proofs.Registry.Moves
import RemoteExec.Proofs.Registry.Serial

namespace RemoteExec.Registry

variable {ω κ α : Type}

open Traffic

def Creation.go : Creation ω α → ω → Except Failure (Creation ω α ⊕ α) × ω
  | .last run, w => ((run w).1.map .inr, (run w).2)
  | .pause run, w => ((run w).1.map .inl, (run w).2)

namespace Race

variable {a : Access ω κ α} {callers : List (Caller ω κ α)} {c : Caller ω κ α} {s t : Race ω α} {r : Registry κ α}
  {i cell : Nat}

theorem traffic_calls (member : callers[i]? = some c) :
    (traffic a callers s).calls i = s.phases[i]?.bind (callOf c.key) := by
  simp [traffic, member]

theorem traffic_set (member : callers[i]? = some c) (inside : i < s.phases.length) {p : Phase ω α}
    (registry : a.get t.world = r) (phases : t.phases = s.phases.set i p) :
    traffic a callers t = ⟨r, Function.update (traffic a callers s).calls i (callOf c.key p)⟩ := by
  have calls : (traffic a callers t).calls = Function.update (traffic a callers s).calls i (callOf c.key p) := by
    funext j
    by_cases same : j = i
    · rw [same, Function.update_self, traffic_calls member, phases, List.getElem?_set_self inside]
      rfl
    · rw [Function.update_of_ne same]
      simp only [traffic, phases, List.getElem?_set_ne (Ne.symm same)]
  rw [← calls, ← registry]
  rfl

-- The call of caller `i` put in place of what there was of it, beside a registry.
def stood (a : Access ω κ α) (callers : List (Caller ω κ α)) (s : Race ω α) (r : Registry κ α) (i : Nat)
    (call : Option (Call κ)) : Traffic κ α :=
  ⟨r, Function.update (traffic a callers s).calls i call⟩

theorem stood_same (call : Option (Call κ)) (here : (traffic a callers s).calls i = call) :
    stood a callers s (a.get s.world) i call = traffic a callers s := by
  rw [stood, ← here, Function.update_eq_self]
  rfl

theorem stood_again (first second : Option (Call κ)) :
    (stood a callers s r i first).setCall i second = stood a callers s r i second := by
  simp [stood, setCall]

theorem stood_call (call : Option (Call κ)) : (stood a callers s r i call).calls i = call := by
  simp only [stood, Function.update_self]

theorem creators_start (a : Access ω κ α) (world : ω) (callers : List (Caller ω κ α)) :
    Creators a (start world callers) := by
  intro j cell rest read
  exact absurd (start_fresh read) (by simp)

theorem Creators.lost (creators : Creators a s) (lawful : a.Lawful) {less : Registry κ α}
    (values : ∀ cell, less.value? cell = (a.get s.world).value? cell) :
    Creators a { s with world := a.set s.world less } := by
  intro j cell rest read
  obtain ⟨owner, vacant, quiet⟩ := creators j cell rest read
  refine ⟨owner, ?_, quiet⟩
  rw [lawful, values]
  exact vacant

theorem traffic_start (a : Access ω κ α) (world : ω) (callers : List (Caller ω κ α)) (fresh : a.get world = Registry.empty) :
    traffic a callers (start world callers) = quiet := by
  have calls : (traffic a callers (start world callers)).calls = fun _ => none := by
    funext i
    cases member : callers[i]? with
    | none => simp [traffic, member]
    | some c =>
        rw [traffic_calls member, Option.bind_eq_none_iff]
        intro p phase
        rw [start_fresh phase]
        rfl
  rw [quiet, ← calls, ← fresh]
  rfl

variable [DecidableEq κ]

omit [DecidableEq κ] in
theorem own_append {early late : List (Move κ α)} (first : ∀ m ∈ early, m.caller? = some i)
    (second : ∀ m ∈ late, m.caller? = some i) : ∀ m ∈ early ++ late, m.caller? = some i :=
  List.forall_mem_append.mpr ⟨first, second⟩

theorem Stands.arrives (member : callers[i]? = some c) (stands : Stands a c.key i s cell r)
    (idle : ∀ rest, s.phases[i]? ≠ some (.creating cell rest)) :
    ∃ moves, Run (traffic a callers s) moves (stood a callers s r i (some ⟨c.key, cell, .waiting⟩)) ∧
      ∀ m ∈ moves, m.caller? = some i := by
  cases stands with
  | newcomer phase entered =>
      have away : (traffic a callers s).calls i = none := by
        rw [traffic_calls member, phase]
        rfl
      refine ⟨[.enter i c.key], .step ?_ (.stay _), by simp [Move.caller?]⟩
      rw [← entered]
      exact Step.enter i c.key away
  | waiter phase =>
      have here : (traffic a callers s).calls i = some ⟨c.key, cell, .waiting⟩ := by
        rw [traffic_calls member, phase]
        rfl
      refine ⟨[], ?_, by simp⟩
      rw [stood_same _ here]
      exact .stay _
  | creator rest phase => exact absurd phase (idle rest)

theorem Worksite.alone (creators : Creators a s) (site : Worksite a c.key i s cell r) {j : Nat} {other : κ}
    (busy : (traffic a callers s).calls j = some ⟨other, cell, .creating⟩) : j = i := by
  obtain ⟨d, _, read⟩ := Option.bind_eq_some_iff.mp busy
  obtain ⟨p, phase, call⟩ := Option.bind_eq_some_iff.mp read
  cases p with
  | creating at_cell rest =>
      cases call
      have owner := (creators j cell rest phase).1
      apply Decidable.byContradiction
      intro apart
      exact site.owner_elsewhere apart owner rfl
  | fresh => cases call
  | waiting at_cell => cases call
  | done outcome => cases call

theorem Worksite.begins (creators : Creators a s) (member : callers[i]? = some c) (site : Worksite a c.key i s cell r) :
    ∃ moves, Run (traffic a callers s) moves (stood a callers s r i (some ⟨c.key, cell, .creating⟩)) ∧
      ∀ m ∈ moves, m.caller? = some i := by
  by_cases busy : ∃ rest, s.phases[i]? = some (.creating cell rest)
  · obtain ⟨rest, phase⟩ := busy
    have here : (traffic a callers s).calls i = some ⟨c.key, cell, .creating⟩ := by
      rw [traffic_calls member, phase]
      rfl
    have found : r = a.get s.world := by
      cases site.stands with
      | newcomer fresh _ => exact absurd (phase.symm.trans fresh) (by simp)
      | waiter _ => rfl
      | creator _ _ => rfl
    refine ⟨[], ?_, by simp⟩
    rw [found, stood_same _ here]
    exact .stay _
  · obtain ⟨moves, arrived, own⟩ := site.stands.arrives member fun rest phase => busy ⟨rest, phase⟩
    refine ⟨moves ++ [.begin i], arrived.append (.step ?_ (.stay _)), own_append own (by simp [Move.caller?])⟩
    rw [← stood_again (some ⟨c.key, cell, .waiting⟩) (some ⟨c.key, cell, .creating⟩)]
    apply Step.begin i (stood_call _)
    · exact (site.stands.value cell).trans site.vacant
    · intro j other creating
      obtain ⟨_, same⟩ | ⟨apart, before⟩ := calls_update creating
      · cases same
      · exact apart (site.alone creators before)

theorem deed_run (creators : Creators a s) (member : callers[i]? = some c) (deed : Deed a callers c.key i s t) :
    ∃ moves, Run (traffic a callers s) moves (traffic a callers t) ∧ ∀ m ∈ moves, m.caller? = some i := by
  cases deed with
  | idle _ same =>
      rw [same]
      exact ⟨[], .stay _, by simp⟩
  | found cell v r off stands value registry _ phases =>
      have idle : ∀ rest, s.phases[i]? ≠ some (.creating cell rest) := by
        intro rest phase
        simp [works, member, phase] at off
      obtain ⟨moves, arrived, own⟩ := stands.arrives member idle
      refine ⟨moves ++ [.find i], arrived.append (.step ?_ (.stay _)), own_append own (by simp [Move.caller?])⟩
      rw [traffic_set member stands.inside registry phases]
      change Step _ _ (stood a callers s r i none)
      rw [← stood_again (some ⟨c.key, cell, .waiting⟩) none]
      exact Step.find i (stood_call _) ((stands.value cell).trans value)
  | joined cell r off stands vacant registry _ _ phases =>
      have idle : ∀ rest, s.phases[i]? ≠ some (.creating cell rest) := by
        intro rest phase
        simp [works, member, phase] at off
      rw [traffic_set member stands.inside registry phases]
      exact stands.arrives member idle
  | paused cell r rest _ site _ registry _ _ _ phases =>
      rw [traffic_set member site.stands.inside registry phases]
      exact site.begins creators member
  | made cell r v _ site registry _ phases =>
      obtain ⟨moves, begun, own⟩ := site.begins creators member
      refine ⟨moves ++ [.make i v], begun.append (.step ?_ (.stay _)), own_append own (by simp [Move.caller?])⟩
      rw [traffic_set member site.stands.inside registry phases]
      change Step _ _ (stood a callers s (r.fill cell v) i none)
      have made : Step (stood a callers s r i (some ⟨c.key, cell, .creating⟩)) _ _ := Step.make i v (stood_call _)
      simpa [stood] using made
  | failed cell r e _ site registry _ _ _ phases =>
      obtain ⟨moves, begun, own⟩ := site.begins creators member
      refine ⟨moves ++ [.fail i, .clean i], begun.append ?_, own_append own (by simp [Move.caller?])⟩
      rw [traffic_set member site.stands.inside registry phases]
      have failing : Step (stood a callers s r i (some ⟨c.key, cell, .creating⟩)) (.fail i)
          (stood a callers s r i (some ⟨c.key, cell, .failed⟩)) := by
        rw [← stood_again (some ⟨c.key, cell, .creating⟩) (some ⟨c.key, cell, .failed⟩)]
        exact Step.fail i (stood_call _)
      refine .step failing (.step ?_ (.stay _))
      change Step _ _ (stood a callers s (r.abandon c.key cell) i none)
      have cleaned : Step (stood a callers s r i (some ⟨c.key, cell, .failed⟩)) _ _ := Step.clean i (stood_call _)
      simpa [stood] using cleaned

section Turns

def facing (a : Access ω κ α) (c : Caller ω κ α) (s : Race ω α) (i : Nat) : Registry κ α :=
  match s.phases[i]? with
  | some .fresh => ((a.get s.world).enter c.key).2
  | _ => a.get s.world

def resumed (a : Access ω κ α) (c : Caller ω κ α) (s : Race ω α) (i : Nat) : Except Failure (Creation ω α ⊕ α) :=
  match s.phases[i]? with
  | some .fresh => (c.creation.go (a.set (c.before s.world) (facing a c s i))).1
  | some (.creating _ rest) => (rest.go s.world).1
  | _ => (c.creation.go s.world).1

-- The cell that a turn of caller `i` works on, and what comes of it.
def attempt (a : Access ω κ α) (callers : List (Caller ω κ α)) (s : Race ω α) (i : Nat) :
    Option (Nat × Except Failure (Creation ω α ⊕ α)) :=
  callers[i]?.bind fun c => (works a callers s i).map fun cell => (cell, resumed a c s i)

def reached (cell : Nat) : Except Failure (Creation ω α ⊕ α) → Phase ω α
  | .ok (.inl rest) => .creating cell rest
  | .ok (.inr v) => .done (.ok v)
  | .error e => .done (.error e)

-- The key that gets a value by a turn of caller `i`: its creation succeeds, and the key still leads to its cell.
def gained (a : Access ω κ α) (callers : List (Caller ω κ α)) (s : Race ω α) (i : Nat) : Option (κ × α) :=
  match callers[i]?, attempt a callers s i with
  | some c, some (cell, .ok (.inr v)) => if (facing a c s i).cell? c.key = some cell then some (c.key, v) else none
  | _, _ => none

def shownAfter (a : Access ω κ α) (callers : List (Caller ω κ α)) (s : Race ω α) : Event κ α → Contents κ α
  | .turn i =>
    match gained a callers s i with
    | some (key, v) => Function.update (traffic a callers s).contents key (some v)
    | none => (traffic a callers s).contents
  | .remove key => Function.update (traffic a callers s).contents key none
  | .removeIf key stale =>
    if ((traffic a callers s).contents key).any stale then Function.update (traffic a callers s).contents key none
    else (traffic a callers s).contents

def Event.Removes (key : κ) (value : α) : Event κ α → Prop
  | .turn _ => False
  | .remove other => other = key
  | .removeIf other stale => other = key ∧ stale value = true

theorem reached_done {outcome : Except Failure (Creation ω α ⊕ α)} {v : α}
    (same : reached cell outcome = .done (.ok v)) : outcome = .ok (.inr v) := by
  cases outcome with
  | error e => cases same
  | ok result =>
      cases result with
      | inl rest => cases same
      | inr v =>
          cases same
          rfl

theorem reached_barren {outcome : Except Failure (Creation ω α ⊕ α)} {p : Phase ω α} (same : reached cell outcome = p)
    (unmade : ∀ v, p ≠ .done (.ok v)) (v : α) : outcome ≠ .ok (.inr v) := by
  rintro rfl
  exact unmade v same.symm

theorem settle_phases (a : Access ω κ α) (c : Caller ω κ α) (i cell : Nat) (outcome : Except Failure α) (s : Race ω α) :
    (settle a c i cell outcome s).phases = s.phases.set i (.done outcome) := by
  cases outcome with
  | ok v => rfl
  | error e => rfl

theorem create_phases (a : Access ω κ α) (c : Caller ω κ α) (i cell : Nat) (creation : Creation ω α) (s : Race ω α) :
    (create a c i cell creation s).phases = s.phases.set i (reached cell (creation.go s.world).1) := by
  cases creation with
  | last run =>
      simp only [create, Creation.go, settle_phases]
      cases (run s.world).1 with
      | ok v => rfl
      | error e => rfl
  | pause run =>
      simp only [create, Creation.go]
      cases run s.world with
      | mk outcome world =>
          cases outcome with
          | ok rest => rfl
          | error e => exact settle_phases a c i cell _ _

theorem works_waiting {at_cell : Nat} (member : callers[i]? = some c) (phase : s.phases[i]? = some (.waiting at_cell))
    (on : works a callers s i = some cell) :
    at_cell = cell ∧ (a.get s.world).value? cell = none ∧ (s.line cell).owner = some i := by
  simp only [works, member, phase] at on
  split at on
  next free =>
    cases on
    simpa using free
  next => cases on

theorem works_fresh (member : callers[i]? = some c) (phase : s.phases[i]? = some .fresh)
    (on : works a callers s i = some cell) :
    ((a.get s.world).enter c.key).1 = cell ∧ (a.get s.world).value? cell = none ∧ (s.line cell).owner.isNone := by
  simp only [works, member, phase] at on
  split at on
  next free =>
    cases on
    simpa using free
  next => cases on

theorem turn_phases (quiet : ∀ c ∈ callers, c.Quiet a) {outcome : Except Failure (Creation ω α ⊕ α)}
    (attempted : attempt a callers s i = some (cell, outcome)) :
    (turn a callers s i).phases = s.phases.set i (reached cell outcome) := by
  obtain ⟨c, member, at_cell⟩ := Option.bind_eq_some_iff.mp attempted
  obtain ⟨_, on, same⟩ := Option.map_eq_some_iff.mp at_cell
  cases same
  have before := (quiet c (List.mem_of_getElem? member)).before s.world
  simp only [turn, member, poll]
  cases phase : s.phases[i]? with
  | none => simp [works, member, phase] at on
  | some p =>
      cases p with
      | done outcome => simp [works, member, phase] at on
      | creating at_cell rest =>
          have same : at_cell = cell := by simpa [works, member, phase] using on
          rw [same, create_phases, resumed, phase]
      | waiting at_cell =>
          obtain ⟨rfl, vacant, mine⟩ := works_waiting member phase on
          simp only [vacant, mine, if_true, create_phases, resumed, phase]
      | fresh =>
          obtain ⟨rfl, vacant, free⟩ := works_fresh member phase on
          have entered : ((a.get s.world).enter c.key).2.value? ((a.get s.world).enter c.key).1 = none :=
            (value_enter _ _ _).trans vacant
          have open_line : (({ s with world := a.set (c.before s.world) ((a.get s.world).enter c.key).2 } : Race ω α).line
              ((a.get s.world).enter c.key).1).owner.isNone := free
          simp only [arrive, before, entered, if_pos open_line, create_phases, resumed, phase, facing]
          rfl

theorem Stands.faces (stands : Stands a c.key i s cell r) : facing a c s i = r := by
  cases stands with
  | newcomer phase _ => simp only [facing, phase]
  | waiter phase => simp only [facing, phase]
  | creator rest phase => simp only [facing, phase]

theorem Stands.shows (stands : Stands a c.key i s cell r) (lawful : (traffic a callers s).Lawful) :
    r.get? = (traffic a callers s).contents :=
  funext (stands.get lawful.sound)

theorem attempt_on (member : callers[i]? = some c) (on : works a callers s i = some cell) :
    attempt a callers s i = some (cell, resumed a c s i) := by
  simp [attempt, member, on]

theorem gained_on (member : callers[i]? = some c) (on : works a callers s i = some cell)
    {outcome : Except Failure (Creation ω α ⊕ α)} (result : resumed a c s i = outcome) (barren : ∀ v, outcome ≠ .ok (.inr v)) :
    gained a callers s i = none := by
  rw [gained, member, attempt_on member on, result]
  cases outcome with
  | error e => rfl
  | ok reached =>
      cases reached with
      | inl rest => rfl
      | inr v => exact absurd rfl (barren v)

theorem gained_off (off : works a callers s i = none) : gained a callers s i = none := by
  cases member : callers[i]? with
  | none => simp [gained, member]
  | some c => simp [gained, member, attempt, off]

theorem shown_same (none_gained : gained a callers s i = none) :
    shownAfter a callers s (.turn i) = (traffic a callers s).contents := by
  simp only [shownAfter, none_gained]

theorem Deed.resumes (quiet : ∀ c ∈ callers, c.Quiet a) (member : callers[i]? = some c) (on : works a callers s i = some cell)
    (inside : i < s.phases.length) {p : Phase ω α} (phases : (turn a callers s i).phases = s.phases.set i p) :
    reached cell (resumed a c s i) = p := by
  have here := congrArg (fun phases => phases[i]?) ((turn_phases quiet (attempt_on member on)).symm.trans phases)
  simpa only [List.getElem?_set_self inside, Option.some.injEq] using here

theorem deed_contents (quiet : ∀ c ∈ callers, c.Quiet a) (lawful : (traffic a callers s).Lawful) (creators : Creators a s)
    (member : callers[i]? = some c) (deed : Deed a callers c.key i s (turn a callers s i)) :
    (traffic a callers (turn a callers s i)).contents = shownAfter a callers s (.turn i) := by
  cases deed with
  | idle off same => rw [shown_same (gained_off off), same]
  | found cell v r off stands value registry _ phases =>
      rw [shown_same (gained_off off), ← stands.shows lawful, ← registry]
      rfl
  | joined cell r off stands vacant registry _ _ phases =>
      rw [shown_same (gained_off off), ← stands.shows lawful, ← registry]
      rfl
  | paused cell r rest on site _ registry _ _ _ phases =>
      have barren := reached_barren (Deed.resumes quiet member on site.stands.inside phases) (by simp)
      rw [shown_same (gained_on member on rfl barren), ← site.stands.shows lawful, ← registry]
      rfl
  | made cell r v on site registry _ phases =>
      have result := reached_done (Deed.resumes quiet member on site.stands.inside phases)
      obtain ⟨moves, begun, _⟩ := site.begins creators member
      have made := make_contents (run_lawful begun lawful) (stood_call _) v
      have shown : (stood a callers s r i (some ⟨c.key, cell, .creating⟩)).contents = (traffic a callers s).contents :=
        site.stands.shows lawful
      have gains : gained a callers s i = if r.cell? c.key = some cell then some (c.key, v) else none := by
        simp only [gained, member, attempt_on member on, result, site.stands.faces]
      have address : (stood a callers s r i (some ⟨c.key, cell, .creating⟩)).addressed i =
          if r.cell? c.key = some cell then some c.key else none := addressed_call (stood_call _)
      change (a.get (turn a callers s i).world).get? = _
      rw [registry, shownAfter, gains]
      rw [Traffic.after, address, shown] at made
      by_cases registered : r.cell? c.key = some cell
      · rw [if_pos registered] at made ⊢
        exact made
      · rw [if_neg registered] at made ⊢
        exact made
  | failed cell r e on site registry _ _ _ phases =>
      have barren := reached_barren (Deed.resumes quiet member on site.stands.inside phases) (by simp)
      have kept : (r.abandon c.key cell).get? = r.get? := funext fun other => get_abandon r c.key other cell
      rw [shown_same (gained_on member on rfl barren), ← site.stands.shows lawful, ← kept, ← registry]
      rfl

theorem Deed.site (deed : Deed a callers c.key i s t) (on : works a callers s i = some cell) :
    ∃ r, Worksite a c.key i s cell r := by
  cases deed with
  | idle off _ => cases off.symm.trans on
  | found _ _ _ off => cases off.symm.trans on
  | joined _ _ off => cases off.symm.trans on
  | paused _ r _ working site =>
      cases working.symm.trans on
      exact ⟨r, site⟩
  | made _ r _ working site =>
      cases working.symm.trans on
      exact ⟨r, site⟩
  | failed _ r _ working site =>
      cases working.symm.trans on
      exact ⟨r, site⟩

theorem gained_unseen (lawful : (traffic a callers s).Lawful) (deed : Deed a callers c.key i s t)
    (member : callers[i]? = some c) {key : κ} {v : α} (gains : gained a callers s i = some (key, v)) :
    (traffic a callers s).contents key = none := by
  cases on : works a callers s i with
  | none => cases (gained_off on).symm.trans gains
  | some cell =>
      obtain ⟨r, site⟩ := deed.site on
      cases result : resumed a c s i with
      | error e => cases (gained_on member on result (by simp)).symm.trans gains
      | ok reached =>
          cases reached with
          | inl rest => cases (gained_on member on result (by simp)).symm.trans gains
          | inr made =>
              simp only [gained, member, attempt_on member on, result, site.stands.faces] at gains
              split at gains
              next registered =>
                cases gains
                rw [← site.stands.shows lawful, get?, registered]
                exact (site.stands.value cell).trans site.vacant
              next => cases gains

end Turns

theorem value_removeIf (r : Registry κ α) (key : κ) (stale : α → Bool) (cell : Nat) :
    (r.removeIf key stale).2.value? cell = r.value? cell := by
  simp only [removeIf]
  split
  · split
    · rfl
    · rfl
  · rfl

-- What an event does: the moves it is made of, what is shown after it, and what a working caller comes to.
structure Happens (a : Access ω κ α) (callers : List (Caller ω κ α)) (s : Race ω α) (e : Event κ α) (t : Race ω α) : Prop where
  moves : ∃ moves, Run (traffic a callers s) moves (traffic a callers t) ∧ ∀ m ∈ moves, m.By e
  contents : (traffic a callers t).contents = shownAfter a callers s e
  unseen : ∀ i key v, e = .turn i → gained a callers s i = some (key, v) → (traffic a callers s).contents key = none
  phases : ∀ i cell outcome, e = .turn i → attempt a callers s i = some (cell, outcome) →
    t.phases = s.phases.set i (reached cell outcome)

structure Steady (a : Access ω κ α) (callers : List (Caller ω κ α)) (s : Race ω α) : Prop where
  creators : Creators a s
  lawful : (traffic a callers s).Lawful

theorem turn_happens (lawful : a.Lawful) (quiet : ∀ c ∈ callers, c.Quiet a) (steady : Steady a callers s) (i : Nat) :
    Creators a (turn a callers s i) ∧ Happens a callers s (.turn i) (turn a callers s i) := by
  cases member : callers[i]? with
  | none =>
      have same : turn a callers s i = s := by simp [turn, member]
      have barren : gained a callers s i = none := by simp [gained, member]
      rw [same]
      refine ⟨steady.creators, ⟨[], .stay _, by simp⟩, (shown_same barren).symm, ?_, ?_⟩
      · rintro _ key v ⟨⟩ gains
        cases barren.symm.trans gains
      · rintro _ cell outcome ⟨⟩ attempted
        simp [attempt, member] at attempted
  | some c =>
      have polled : turn a callers s i = poll a c i s := by simp [turn, member]
      have deed := poll_deed a lawful callers c i member (quiet c (List.mem_of_getElem? member)) s (steady.creators i)
      rw [← polled] at deed
      have run := deed_run steady.creators member deed
      have contents := deed_contents quiet steady.lawful steady.creators member deed
      refine ⟨creators_turn steady.creators deed, run, contents, ?_, ?_⟩
      · rintro _ key v ⟨⟩ gains
        exact gained_unseen steady.lawful deed member gains
      · rintro _ cell outcome ⟨⟩ attempted
        exact turn_phases quiet attempted

theorem removal_happens (lawful : a.Lawful) (steady : Steady a callers s) (e : Event κ α) (m : Move κ α) (less : Registry κ α)
    (occurs : occur a callers s e = { s with world := a.set s.world less }) (own : m.By e) (silent : ∀ i, e ≠ .turn i)
    (values : ∀ cell, less.value? cell = (a.get s.world).value? cell)
    (step : Step (traffic a callers s) m ⟨less, (traffic a callers s).calls⟩) (shown : less.get? = shownAfter a callers s e) :
    Creators a (occur a callers s e) ∧ Happens a callers s e (occur a callers s e) := by
  have after : traffic a callers (occur a callers s e) = ⟨less, (traffic a callers s).calls⟩ := by
    rw [occurs]
    exact congrArg (fun r => (⟨r, (traffic a callers s).calls⟩ : Traffic κ α)) (lawful s.world less)
  refine ⟨occurs ▸ steady.creators.lost lawful values, ⟨[m], ?_, by simpa using own⟩, ?_, ?_, ?_⟩
  · rw [after]
    exact .step step (.stay _)
  · rw [after]
    exact shown
  · exact fun i _ _ same => absurd same (silent i)
  · exact fun i _ _ same => absurd same (silent i)

theorem occur_happens (lawful : a.Lawful) (quiet : ∀ c ∈ callers, c.Quiet a) (steady : Steady a callers s) (e : Event κ α) :
    Creators a (occur a callers s e) ∧ Happens a callers s e (occur a callers s e) := by
  cases e with
  | turn i => exact turn_happens lawful quiet steady i
  | remove key =>
      exact removal_happens lawful steady (.remove key) (.remove key) _ rfl rfl (by simp) (value_erase _ key) (Step.remove key)
        (remove_contents (traffic a callers s) key)
  | removeIf key stale =>
      exact removal_happens lawful steady (.removeIf key stale) (.removeIf key stale) _ rfl rfl (by simp)
        (value_removeIf _ key stale) (Step.removeIf key stale) (removeIf_contents (traffic a callers s) key stale).2

theorem occur_steady (lawful : a.Lawful) (quiet : ∀ c ∈ callers, c.Quiet a) (steady : Steady a callers s) (e : Event κ α) :
    Steady a callers (occur a callers s e) := by
  obtain ⟨creators, happens⟩ := occur_happens lawful quiet steady e
  obtain ⟨moves, run, _⟩ := happens.moves
  exact ⟨creators, run_lawful run steady.lawful⟩

theorem occurs_steady (lawful : a.Lawful) (quiet : ∀ c ∈ callers, c.Quiet a) (steady : Steady a callers s)
    (events : List (Event κ α)) : Steady a callers (events.foldl (occur a callers) s) := by
  induction events generalizing s with
  | nil => exact steady
  | cons e rest ih => exact ih (occur_steady lawful quiet steady e)

omit [DecidableEq κ] in
theorem by_spares {e : Event κ α} {m : Move κ α} (own : m.By e) {key : κ} {value : α} (spared : ¬ e.Removes key value) :
    ¬ m.Removes key value := by
  cases e with
  | turn i =>
      intro removes
      cases m with
      | remove other => cases own
      | removeIf other stale => cases own
      | _ => exact removes
  | remove other =>
      cases own
      exact spared
  | removeIf other stale =>
      cases own
      exact spared

theorem occurs_stay (lawful : a.Lawful) (quiet : ∀ c ∈ callers, c.Quiet a) (steady : Steady a callers s)
    (events : List (Event κ α)) {key : κ} {value : α} (shown : (traffic a callers s).contents key = some value)
    (spared : ∀ e ∈ events, ¬ e.Removes key value) :
    (traffic a callers (events.foldl (occur a callers) s)).contents key = some value := by
  induction events generalizing s with
  | nil => exact shown
  | cons e rest ih =>
      obtain ⟨moves, run, own⟩ := (occur_happens lawful quiet steady e).2.moves
      have next := run_stays run steady.lawful shown fun m listed =>
        by_spares (own m listed) (spared e List.mem_cons_self)
      exact ih (occur_steady lawful quiet steady e) next fun other listed => spared other (List.mem_cons_of_mem _ listed)

variable (κ α) in
theorem contents_change_by_moves :
    (∀ (moves : List (Move κ α)) (t : Traffic κ α), Run quiet moves t →
      t.Observed ∧
      (∀ m t', Step t m t' → t'.contents = t.after m ∧
        ∀ i value key, m = .make i value → t.addressed i = some key → t.contents key = none) ∧
      ∀ later t' key value, Run t later t' → t.contents key = some value → (∀ m ∈ later, ¬ m.Removes key value) →
        t'.contents key = some value) ∧
    ∀ (ω : Type) (a : Access ω κ α) (callers : List (Caller ω κ α)) (world : ω),
      a.Lawful → (∀ c ∈ callers, c.Quiet a) → a.get world = Registry.empty →
      ∀ (events : List (Event κ α)) (s : Race ω α), s = events.foldl (occur a callers) (start world callers) →
        (traffic a callers s).Observed ∧
        (∀ e, Happens a callers s e (occur a callers s e)) ∧
        ∀ (later : List (Event κ α)) key value, (traffic a callers s).contents key = some value →
          (∀ e ∈ later, ¬ e.Removes key value) → (traffic a callers (later.foldl (occur a callers) s)).contents key = some value := by
  constructor
  · intro moves t run
    have lawful := run_lawful run quiet_lawful
    refine ⟨lawful.observed, ?_, ?_⟩
    · intro m t' step
      refine ⟨step_contents lawful step, ?_⟩
      rintro i value key rfl addressed
      exact make_unseen lawful step addressed
    · intro later t' key value more shown spared
      exact run_stays more lawful shown spared
  · rintro ω a callers world lawful quiet fresh events _ rfl
    have at_start : Steady a callers (start world callers) :=
      ⟨creators_start a world callers, traffic_start a world callers fresh ▸ quiet_lawful⟩
    have steady := occurs_steady lawful quiet at_start events
    refine ⟨steady.lawful.observed, fun e => (occur_happens lawful quiet steady e).2, ?_⟩
    intro later key value shown spared
    exact occurs_stay lawful quiet steady later shown spared

def overtaking : List (Move Nat String) := [.enter 0 5, .enter 1 5, .begin 0, .fail 0, .begin 1, .make 1 "b"]

theorem overtaking_run :
    ∃ before : Traffic Nat String, Run quiet overtaking before ∧ before.calls 0 = some ⟨5, 0, .failed⟩ ∧
      before.registry = ⟨[(5, 0)], [(0, "b")], 1⟩ := by
  refine ⟨_, .step (.enter 0 5 rfl) (.step (.enter 1 5 rfl) (.step (.begin 0 rfl rfl ?_)
    (.step (.fail 0 rfl) (.step (.begin 1 rfl rfl ?_) (.step (.make 1 "b" rfl) (.stay _)))))), rfl, rfl⟩
  · intro j other busy
    obtain ⟨_, same⟩ | ⟨_, busy⟩ := calls_update busy
    · cases same
    · obtain ⟨_, same⟩ | ⟨_, busy⟩ := calls_update busy
      · cases same
      · cases busy
  · intro j other busy
    obtain ⟨_, same⟩ | ⟨away, busy⟩ := calls_update busy
    · cases same
    · obtain ⟨here, _⟩ | ⟨_, busy⟩ := calls_update busy
      · exact away here
      · obtain ⟨_, same⟩ | ⟨_, busy⟩ := calls_update busy
        · cases same
        · obtain ⟨_, same⟩ | ⟨_, busy⟩ := calls_update busy
          · cases same
          · cases busy

-- The first caller pauses, its key is removed, and the second caller makes a value in a cell of its own.
def outrun : List (Event Identity String) := [.turn 0, .remove deployer, .turn 1]

theorem contents_survive_late_failure :
    (∃ before after : Traffic Nat String, Run quiet overtaking before ∧ Step before (.clean 0) after ∧
      before.contents 5 = some "b" ∧ after.contents 5 = some "b") ∧
    (∀ c ∈ asks takeOver, c.Quiet Maker.access) ∧
    ∃ s, s = outrun.foldl (occur Maker.access (asks takeOver)) (start ⟨Registry.empty, 0⟩ (asks takeOver)) ∧
      (traffic Maker.access (asks takeOver) s).contents deployer = some "b" ∧
      attempt Maker.access (asks takeOver) s 0 = some (0, .error (.connection "refused")) ∧
      (turn Maker.access (asks takeOver) s 0).phases = s.phases.set 0 (.done (.error (.connection "refused"))) ∧
      (traffic Maker.access (asks takeOver) (turn Maker.access (asks takeOver) s 0)).contents deployer = some "b" := by
  constructor
  · obtain ⟨before, overtaken, failed, registry⟩ := overtaking_run
    obtain ⟨each, _⟩ := contents_change_by_moves Nat String
    obtain ⟨_, changes, _⟩ := each overtaking before overtaken
    have late := Step.clean 0 failed
    have shown : before.contents 5 = some "b" := by
      rw [contents, registry]
      rfl
    refine ⟨before, _, overtaken, late, shown, ?_⟩
    rw [(changes _ _ late).1]
    exact shown
  · have asking : ∀ c ∈ asks takeOver, c.Quiet Maker.access := (makers_ask deployer takeOver).quiet
    obtain ⟨_, races⟩ := contents_change_by_moves Identity String
    obtain ⟨_, happens, stays⟩ := races _ Maker.access (asks takeOver) ⟨Registry.empty, 0⟩ (fun _ _ => rfl) asking rfl outrun _ rfl
    have shown : (traffic Maker.access (asks takeOver) (outrun.foldl (occur Maker.access (asks takeOver))
        (start ⟨Registry.empty, 0⟩ (asks takeOver)))).contents deployer = some "b" := rfl
    have late : attempt Maker.access (asks takeOver) (outrun.foldl (occur Maker.access (asks takeOver))
        (start ⟨Registry.empty, 0⟩ (asks takeOver))) 0 = some (0, .error (.connection "refused")) := rfl
    refine ⟨asking, _, rfl, shown, late, (happens (.turn 0)).phases 0 0 _ rfl late, ?_⟩
    exact stays [.turn 0] deployer "b" shown (by simp [Event.Removes])

end Race
end RemoteExec.Registry

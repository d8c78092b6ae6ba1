import RemoteExec.Proofs.Registry.Laws
import RemoteExec.Registry.Race

namespace RemoteExec.Registry

variable {ω κ α : Type}

inductive Creation.Quiet (a : Access ω κ α) : Creation ω α → Prop where
  | last (run : ω → Except Failure α × ω) (same : ∀ w, a.get (run w).2 = a.get w) : Quiet a (.last run)
  | pause (run : ω → Except Failure (Creation ω α) × ω) (same : ∀ w, a.get (run w).2 = a.get w)
      (rest : ∀ w c, (run w).1 = .ok c → Quiet a c) : Quiet a (.pause run)

structure Caller.Quiet (a : Access ω κ α) (c : Caller ω κ α) : Prop where
  before : ∀ w, a.get (c.before w) = a.get w
  creation : c.creation.Quiet a
  after : ∀ outcome w, a.get (c.after outcome w) = a.get w

def Access.Lawful (a : Access ω κ α) : Prop := ∀ w r, a.get (a.set w r) = r

def Phase.cell? : Phase ω α → Option Nat
  | .waiting cell => some cell
  | .creating cell _ => some cell
  | _ => none

namespace Race

theorem line_set_line (s : Race ω α) (l : Line) (cell : Nat) :
    (s.setLine l).line cell = if cell = l.cell then l else s.line cell := by
  by_cases same : cell = l.cell
  · simp [line, setLine, same]
  · have apart : ¬ l.cell = cell := fun eq => same eq.symm
    have agree : ∀ m : Line, (!decide (m.cell = l.cell) && decide (m.cell = cell)) = decide (m.cell = cell) := by
      intro m
      by_cases hit : m.cell = cell
      · simp [hit, same]
      · simp [hit]
    simp [line, setLine, same, apart, List.find?_filter, agree]

theorem finish_world (a : Access ω κ α) (c : Caller ω κ α) (quiet : c.Quiet a) (i : Nat) (outcome : Except Failure α)
    (s : Race ω α) : a.get (finish c i outcome s).world = a.get s.world :=
  quiet.after outcome s.world

variable [DecidableEq κ]

def Throughout (a : Access ω κ α) (callers : List (Caller ω κ α)) (holds : Race ω α → Nat → Prop) :
    Race ω α → List Nat → Prop
  | _, [] => True
  | s, i :: rest => holds s i ∧ Throughout a callers holds (turn a callers s i) rest

def works (a : Access ω κ α) (callers : List (Caller ω κ α)) (s : Race ω α) (i : Nat) : Option Nat :=
  match callers[i]?, s.phases[i]? with
  | some c, some .fresh =>
    let cell := ((a.get s.world).enter c.key).1
    if ((a.get s.world).value? cell).isNone && (s.line cell).owner.isNone then some cell else none
  | some _, some (.waiting cell) =>
    if ((a.get s.world).value? cell).isNone && (s.line cell).owner == some i then some cell else none
  | some _, some (.creating cell _) => some cell
  | _, _ => none

inductive Stands (a : Access ω κ α) (key : κ) (i : Nat) (s : Race ω α) (cell : Nat) : Registry κ α → Prop where
  | newcomer (phase : s.phases[i]? = some .fresh) (entered : ((a.get s.world).enter key).1 = cell) :
      Stands a key i s cell ((a.get s.world).enter key).2
  | waiter (phase : s.phases[i]? = some (.waiting cell)) : Stands a key i s cell (a.get s.world)
  | creator (rest : Creation ω α) (phase : s.phases[i]? = some (.creating cell rest)) :
      Stands a key i s cell (a.get s.world)

structure Worksite (a : Access ω κ α) (key : κ) (i : Nat) (s : Race ω α) (cell : Nat) (r : Registry κ α) : Prop where
  stands : Stands a key i s cell r
  vacant : (a.get s.world).value? cell = none
  free : (s.line cell).owner = none ∨ (s.line cell).owner = some i

-- What a turn may do. The registry `r` is the one that the caller finds or has just entered.
inductive Deed (a : Access ω κ α) (callers : List (Caller ω κ α)) (key : κ) (i : Nat) (s t : Race ω α) : Prop where
  | idle (off : works a callers s i = none) (same : t = s)
  | found (cell : Nat) (v : α) (r : Registry κ α) (off : works a callers s i = none)
      (stands : Stands a key i s cell r) (value : (a.get s.world).value? cell = some v)
      (registry : a.get t.world = r) (lines : t.line = s.line) (phases : t.phases = s.phases.set i (.done (.ok v)))
  | joined (cell : Nat) (r : Registry κ α) (off : works a callers s i = none)
      (stands : Stands a key i s cell r) (vacant : (a.get s.world).value? cell = none)
      (registry : a.get t.world = r)
      (line : t.line cell = ⟨cell, (s.line cell).owner, (s.line cell).queue ++ [i]⟩)
      (lines : ∀ other, other ≠ cell → t.line other = s.line other) (phases : t.phases = s.phases.set i (.waiting cell))
  | paused (cell : Nat) (r : Registry κ α) (rest : Creation ω α) (on : works a callers s i = some cell)
      (site : Worksite a key i s cell r) (quiet : rest.Quiet a) (registry : a.get t.world = r)
      (owner : (t.line cell).owner = some i) (queue : (t.line cell).queue = (s.line cell).queue)
      (lines : ∀ other, other ≠ cell → t.line other = s.line other)
      (phases : t.phases = s.phases.set i (.creating cell rest))
  | made (cell : Nat) (r : Registry κ α) (v : α) (on : works a callers s i = some cell)
      (site : Worksite a key i s cell r) (registry : a.get t.world = r.fill cell v)
      (lines : ∀ other, other ≠ cell → t.line other = s.line other)
      (phases : t.phases = s.phases.set i (.done (.ok v)))
  | failed (cell : Nat) (r : Registry κ α) (e : Failure) (on : works a callers s i = some cell)
      (site : Worksite a key i s cell r) (registry : a.get t.world = r.abandon key cell)
      (owner : (t.line cell).owner = (s.line cell).queue.head?) (queue : (t.line cell).queue = (s.line cell).queue.tail)
      (lines : ∀ other, other ≠ cell → t.line other = s.line other)
      (phases : t.phases = s.phases.set i (.done (.error e)))

-- `begun` is the state after caller `i` has taken hold of the cell and before its creation goes on.
theorem settle_deed (a : Access ω κ α) (lawful : a.Lawful) (callers : List (Caller ω κ α)) (c : Caller ω κ α)
    (quiet : c.Quiet a) (i cell : Nat) (s begun : Race ω α) (r : Registry κ α) (outcome : Except Failure α)
    (on : works a callers s i = some cell) (site : Worksite a c.key i s cell r) (registry : a.get begun.world = r)
    (phases : begun.phases = s.phases) (queue : (begun.line cell).queue = (s.line cell).queue)
    (lines : ∀ other, other ≠ cell → begun.line other = s.line other) :
    Deed a callers c.key i s (settle a c i cell outcome begun) := by
  have others : ∀ (l : Line) (other : Nat), l.cell = cell → other ≠ cell → (begun.setLine l).line other = s.line other := by
    intro l other at_cell apart
    rw [line_set_line, if_neg (by rw [at_cell]; exact apart)]
    exact lines other apart
  cases outcome with
  | ok v =>
      refine .made cell r v on site ?_ ?_ ?_
      · simp only [settle, finish_world a c quiet]
        rw [lawful, ← registry]
      · intro other apart
        exact others ⟨cell, none, (begun.line cell).queue⟩ other rfl apart
      · simp only [settle, finish, setPhase, setLine, phases]
  | error e =>
      have front := line_set_line begun ⟨cell, (begun.line cell).queue.head?, (begun.line cell).queue.tail⟩ cell
      rw [if_pos rfl] at front
      refine .failed cell r e on site ?_ ?_ ?_ ?_ ?_
      · simp only [settle, finish_world a c quiet]
        rw [lawful, ← registry]
      · rw [← queue]
        exact congrArg Line.owner front
      · rw [← queue]
        exact congrArg Line.queue front
      · intro other apart
        exact others ⟨cell, (begun.line cell).queue.head?, (begun.line cell).queue.tail⟩ other rfl apart
      · simp only [settle, finish, setPhase, setLine, phases]

theorem create_deed (a : Access ω κ α) (lawful : a.Lawful) (callers : List (Caller ω κ α)) (c : Caller ω κ α)
    (quiet : c.Quiet a) (i cell : Nat) (s begun : Race ω α) (r : Registry κ α) (creation : Creation ω α)
    (silent : creation.Quiet a) (on : works a callers s i = some cell) (site : Worksite a c.key i s cell r)
    (registry : a.get begun.world = r) (phases : begun.phases = s.phases) (owner : (begun.line cell).owner = some i)
    (queue : (begun.line cell).queue = (s.line cell).queue)
    (lines : ∀ other, other ≠ cell → begun.line other = s.line other) :
    Deed a callers c.key i s (create a c i cell creation begun) := by
  cases silent with
  | last run same =>
      have untouched : a.get (run begun.world).2 = r := (same begun.world).trans registry
      exact settle_deed a lawful callers c quiet i cell s { begun with world := (run begun.world).2 } r
        (run begun.world).1 on site untouched phases queue lines
  | pause run same rest =>
      have untouched : a.get (run begun.world).2 = r := (same begun.world).trans registry
      cases result : run begun.world with
      | mk outcome world =>
          rw [result] at untouched
          cases outcome with
          | ok more =>
              have quietRest : more.Quiet a := rest begun.world more (by rw [result])
              simp only [create, result]
              exact .paused cell r more on site quietRest untouched owner queue lines
                (by simp only [setPhase, phases])
          | error e =>
              simp only [create, result]
              exact settle_deed a lawful callers c quiet i cell s { begun with world := world } r (.error e) on site
                untouched phases queue lines

theorem arrive_deed (a : Access ω κ α) (lawful : a.Lawful) (callers : List (Caller ω κ α)) (c : Caller ω κ α)
    (i : Nat) (member : callers[i]? = some c) (quiet : c.Quiet a) (s : Race ω α)
    (fresh : s.phases[i]? = some .fresh) : Deed a callers c.key i s (arrive a c i s) := by
  have before : a.get (c.before s.world) = a.get s.world := quiet.before s.world
  generalize entry : (a.get s.world).enter c.key = entered
  obtain ⟨cell, r⟩ := entered
  have at_cell : ((a.get s.world).enter c.key).1 = cell := by rw [entry]
  have registry : ((a.get s.world).enter c.key).2 = r := by rw [entry]
  have values : r.value? cell = (a.get s.world).value? cell := by
    rw [← registry]
    exact value_enter _ _ _
  have stands : Stands a c.key i s cell r := registry ▸ .newcomer fresh at_cell
  have put : a.get (a.set (c.before s.world) r) = r := lawful _ _
  simp only [arrive, before, entry, values]
  cases value : (a.get s.world).value? cell with
  | some v =>
      have off : works a callers s i = none := by simp [works, member, fresh, at_cell, value]
      refine .found cell v r off stands value ?_ rfl rfl
      simp only [finish_world a c quiet, put]
  | none =>
      by_cases free : (s.line cell).owner = none
      · have on : works a callers s i = some cell := by simp [works, member, fresh, at_cell, value, free]
        have lines := line_set_line { s with world := a.set (c.before s.world) r } ⟨cell, some i, (s.line cell).queue⟩
        have here := lines cell
        rw [if_pos rfl] at here
        have open_line : (({ s with world := a.set (c.before s.world) r } : Race ω α).line cell).owner.isNone := by
          change (s.line cell).owner.isNone
          simp [free]
        simp only [if_pos open_line]
        refine create_deed a lawful callers c quiet i cell s _ r c.creation quiet.creation on ⟨stands, value, .inl free⟩
          put rfl ?_ ?_ ?_
        · exact congrArg Line.owner here
        · exact (congrArg Line.queue here).trans rfl
        · intro other apart
          have there := lines other
          rw [if_neg apart] at there
          exact there
      · have off : works a callers s i = none := by simp [works, member, fresh, at_cell, free]
        have lines := line_set_line { s with world := a.set (c.before s.world) r }
          ⟨cell, (s.line cell).owner, (s.line cell).queue ++ [i]⟩
        have here := lines cell
        rw [if_pos rfl] at here
        have taken : ¬ (({ s with world := a.set (c.before s.world) r } : Race ω α).line cell).owner.isNone := by
          change ¬ (s.line cell).owner.isNone
          simp [free]
        simp only [if_neg taken]
        refine .joined cell r off stands value put here ?_ rfl
        intro other apart
        have there := lines other
        rw [if_neg apart] at there
        exact there

theorem poll_deed (a : Access ω κ α) (lawful : a.Lawful) (callers : List (Caller ω κ α)) (c : Caller ω κ α)
    (i : Nat) (member : callers[i]? = some c) (quiet : c.Quiet a) (s : Race ω α)
    (creators : ∀ cell rest, s.phases[i]? = some (.creating cell rest) →
      (s.line cell).owner = some i ∧ (a.get s.world).value? cell = none ∧ rest.Quiet a) :
    Deed a callers c.key i s (poll a c i s) := by
  cases phase : s.phases[i]? with
  | none => exact .idle (by simp [works, member, phase]) (by simp [poll, phase])
  | some p =>
      cases p with
      | fresh =>
          have same : poll a c i s = arrive a c i s := by simp [poll, phase]
          rw [same]
          exact arrive_deed a lawful callers c i member quiet s phase
      | waiting cell =>
          cases value : (a.get s.world).value? cell with
          | some v =>
              have same : poll a c i s = finish c i (.ok v) s := by simp [poll, phase, value]
              rw [same]
              exact .found cell v _ (by simp [works, member, phase, value]) (.waiter phase) value
                (finish_world a c quiet i _ s) rfl rfl
          | none =>
              by_cases mine : (s.line cell).owner = some i
              · have same : poll a c i s = create a c i cell c.creation s := by simp [poll, phase, value, mine]
                rw [same]
                exact create_deed a lawful callers c quiet i cell s s _ c.creation quiet.creation
                  (by simp [works, member, phase, value, mine]) ⟨.waiter phase, value, .inr mine⟩ rfl rfl mine rfl
                  (fun _ _ => rfl)
              · exact .idle (by simp [works, member, phase, mine]) (by simp [poll, phase, value, mine])
      | creating cell rest =>
          obtain ⟨owner, vacant, silent⟩ := creators cell rest phase
          have same : poll a c i s = create a c i cell rest s := by simp [poll, phase]
          rw [same]
          exact create_deed a lawful callers c quiet i cell s s _ rest silent (by simp [works, member, phase])
            ⟨.creator rest phase, vacant, .inr owner⟩ rfl rfl owner rfl (fun _ _ => rfl)
      | done outcome => exact .idle (by simp [works, member, phase]) (by simp [poll, phase])

theorem turn_deed (a : Access ω κ α) (lawful : a.Lawful) (callers : List (Caller ω κ α)) (key : κ)
    (quiet : ∀ c ∈ callers, c.Quiet a) (keyed : ∀ c ∈ callers, c.key = key) (i : Nat) (s : Race ω α)
    (creators : ∀ cell rest, s.phases[i]? = some (.creating cell rest) →
      (s.line cell).owner = some i ∧ (a.get s.world).value? cell = none ∧ rest.Quiet a) :
    Deed a callers key i s (turn a callers s i) := by
  cases member : callers[i]? with
  | none => exact .idle (by simp [works, member]) (by simp [turn, member])
  | some c =>
      have listed : c ∈ callers := List.mem_of_getElem? member
      have same : turn a callers s i = poll a c i s := by simp [turn, member]
      rw [same, ← keyed c listed]
      exact poll_deed a lawful callers c i member (quiet c listed) s creators

theorem round_turns (a : Access ω κ α) (callers : List (Caller ω κ α)) (s : Race ω α) :
    round a callers s = (List.range callers.length).foldl (turn a callers) s := by
  have turns : ∀ (base : Nat) (rest : List (Caller ω κ α)) (s : Race ω α), callers.drop base = rest →
      (rest.zipIdx base).foldl (fun s c => poll a c.1 c.2 s) s =
        (List.range' base rest.length).foldl (turn a callers) s := by
    intro base rest
    induction rest generalizing base with
    | nil => intro s _; rfl
    | cons c rest ih =>
        intro s tail
        have here : callers[base]? = some c := by
          rw [← List.head?_drop, tail]
          rfl
        have later : callers.drop (base + 1) = rest := by
          rw [← List.tail_drop, tail]
          rfl
        simp only [List.zipIdx_cons, List.foldl_cons, List.length_cons, List.range'_succ]
        rw [ih (base + 1) _ later]
        simp only [turn, here]
  rw [List.range_eq_range']
  exact turns 0 callers s rfl

theorem rounds_scheduled (a : Access ω κ α) (callers : List (Caller ω κ α)) (n : Nat) (s : Race ω α) :
    ∃ schedule : List Nat, rounds a callers n s = schedule.foldl (turn a callers) s := by
  induction n generalizing s with
  | zero => exact ⟨[], rfl⟩
  | succ n ih =>
      by_cases finished : s.phases.all isDone = true
      · exact ⟨[], by rw [rounds, if_pos finished]; rfl⟩
      · obtain ⟨schedule, same⟩ := ih (round a callers s)
        refine ⟨List.range callers.length ++ schedule, ?_⟩
        rw [rounds, if_neg finished, same, round_turns, List.foldl_append]

end Race
end RemoteExec.Registry

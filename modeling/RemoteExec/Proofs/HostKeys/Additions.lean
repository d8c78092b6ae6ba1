import RemoteExec.Proofs.HostKeys.Answers

namespace RemoteExec

namespace KnownHosts

section Fresh

-- The keys that a run adds without their being known, in order.
def fresh (known : List KnownKey) : List Use → List KnownKey
  | [] => []
  | .add e :: later => if e.known ∈ known then fresh known later else e.known :: fresh (known ++ [e.known]) later
  | .check _ :: later => fresh known later
  | .save :: later => fresh known later

variable {known : List KnownKey} {uses : List Use} {k : KnownKey}

theorem fresh_append (known : List KnownKey) (uses later : List Use) :
    fresh known (uses ++ later) = fresh known uses ++ fresh (known ++ fresh known uses) later := by
  induction uses generalizing known with
  | nil => rw [fresh, List.append_nil, List.nil_append, List.nil_append]
  | cons u rest ih =>
      cases u with
      | add e =>
          rw [List.cons_append, fresh, fresh]
          by_cases old : e.known ∈ known
          · rw [if_pos old, if_pos old, ih]
          · rw [if_neg old, if_neg old, ih, List.cons_append, List.append_assoc, List.singleton_append]
      | check e => exact ih known
      | save => exact ih known

theorem mem_fresh_iff : k ∈ fresh known uses ↔ k ∉ known ∧ ∃ e, .add e ∈ uses ∧ k = e.known := by
  induction uses generalizing known with
  | nil => simp [fresh]
  | cons u rest ih =>
      cases u with
      | add e =>
          rw [fresh]
          by_cases old : e.known ∈ known
          · rw [if_pos old, ih]
            constructor
            · intro added
              obtain ⟨unknown, f, later, same⟩ := added
              exact ⟨unknown, f, List.mem_cons_of_mem _ later, same⟩
            · intro added
              obtain ⟨unknown, f, member, same⟩ := added
              cases member with
              | head => exact absurd (same ▸ old) unknown
              | tail _ later => exact ⟨unknown, f, later, same⟩
          · rw [if_neg old, List.mem_cons, ih, List.mem_append, List.mem_singleton]
            constructor
            · intro added
              cases added with
              | inl same => exact ⟨same ▸ old, e, List.mem_cons_self, same⟩
              | inr later =>
                  obtain ⟨unknown, f, member, same⟩ := later
                  exact ⟨fun there => unknown (Or.inl there), f, List.mem_cons_of_mem _ member, same⟩
            · intro added
              obtain ⟨unknown, f, member, same⟩ := added
              by_cases first : k = e.known
              · exact Or.inl first
              · cases member with
                | head => exact absurd same first
                | tail _ later => exact Or.inr ⟨fun there => there.elim unknown first, f, later, same⟩
      | check e => simpa [fresh] using ih
      | save => simpa [fresh] using ih

theorem fresh_nodup (known : List KnownKey) (uses : List Use) : (fresh known uses).Nodup := by
  induction uses generalizing known with
  | nil => exact List.nodup_nil
  | cons u rest ih =>
      cases u with
      | add e =>
          rw [fresh]
          by_cases old : e.known ∈ known
          · rw [if_pos old]
            exact ih known
          · rw [if_neg old, List.nodup_cons]
            constructor
            · intro again
              exact (mem_fresh_iff.mp again).1 (List.mem_append_right _ List.mem_cons_self)
            · exact ih _
      | check e => exact ih known
      | save => exact ih known

end Fresh

section Texts

theorem text_append (one other : List KnownKey) : text (one ++ other) = text one ++ text other := by
  induction one with
  | nil => simp [text]
  | cons first rest ih =>
      rw [List.cons_append, text_cons, text_cons, ih]
      simp only [String.append_assoc]

abbrev Batch := List KnownKey × Bytes

def Batch.Part (b : Batch) : Prop := b.2 <+: Bytes.ofString (text b.1)

def Batch.Whole (b : Batch) : Prop := b.2 = Bytes.ofString (text b.1)

theorem taken_length {batches : List Batch} (part : ∀ b ∈ batches, b.Part) :
    (batches.flatMap Prod.snd).length ≤ (Bytes.ofString (text (batches.flatMap Prod.fst))).length := by
  induction batches with
  | nil => exact Nat.zero_le _
  | cons b rest ih =>
      have first := (part b List.mem_cons_self).length_le
      have others := ih fun other member => part other (List.mem_cons_of_mem _ member)
      rw [List.flatMap_cons, List.flatMap_cons, text_append, Bytes.ofString_append, List.length_append, List.length_append]
      exact Nat.add_le_add first others

theorem taken_whole_iff {batches : List Batch} (part : ∀ b ∈ batches, b.Part) :
    batches.flatMap Prod.snd = Bytes.ofString (text (batches.flatMap Prod.fst)) ↔ ∀ b ∈ batches, b.Whole := by
  induction batches with
  | nil => simp [text, Bytes.ofString]
  | cons b rest ih =>
      have others : ∀ other ∈ rest, other.Part := fun other member => part other (List.mem_cons_of_mem _ member)
      rw [List.flatMap_cons, List.flatMap_cons, text_append, Bytes.ofString_append, List.forall_mem_cons, ← ih others]
      constructor
      · intro all
        obtain ⟨missing, lines⟩ := part b List.mem_cons_self
        rw [← lines, List.append_assoc] at all
        have left := List.append_cancel_left all
        have nothing : missing = [] := by
          have bound := taken_length others
          rw [left, List.length_append] at bound
          exact List.eq_nil_of_length_eq_zero (by omega)
        rw [nothing, List.nil_append] at left
        rw [nothing, List.append_nil] at lines
        exact ⟨lines, left⟩
      · intro each
        rw [each.1, each.2]

end Texts

end KnownHosts

namespace FiledHosts

open KnownHosts

section Runs

-- A save that stops while it writes.
def StopsAt (f : FiledHosts) : Use → Prop
  | .save => ∃ taken refusal, f.store.Stops f.files taken refusal
  | _ => False

def next (f : FiledHosts) (u : List (Place × Limit) × Use) : FiledHosts := ((f.under u.1).use u.2).2.2

def StopsIn (f : FiledHosts) : List (List (Place × Limit) × Use) → Prop
  | [] => False
  | u :: later => (f.under u.1).StopsAt u.2 ∨ StopsIn (f.next u) later

def trace (f : FiledHosts) : List (List (Place × Limit) × Use) → List (Use × FiledHosts)
  | [] => []
  | u :: later => (u.2, f.next u) :: trace (f.next u) later

def drained : Use × FiledHosts → Bool
  | (.save, now) => now.store.pending.isEmpty
  | _ => false

-- A run up to the last save that left nothing pending.
def upToSave (run : List (Use × FiledHosts)) : List Use := ((run.reverse.dropWhile fun u => !drained u).reverse).map Prod.fst

variable {f : FiledHosts} {u : List (Place × Limit) × Use}

theorem after_append (f : FiledHosts) (run later : List (List (Place × Limit) × Use)) :
    f.after (run ++ later) = (f.after run).after later :=
  List.foldl_append

theorem after_last (f : FiledHosts) (run : List (List (Place × Limit) × Use)) (u : List (Place × Limit) × Use) :
    f.after (run ++ [u]) = (f.after run).next u :=
  after_append f run [u]

theorem trace_last (f : FiledHosts) (run : List (List (Place × Limit) × Use)) (u : List (Place × Limit) × Use) :
    f.trace (run ++ [u]) = f.trace run ++ [(u.2, (f.after run).next u)] := by
  induction run generalizing f with
  | nil => rfl
  | cons first rest ih =>
      rw [List.cons_append, trace, trace, ih, List.cons_append]
      rfl

theorem trace_uses (f : FiledHosts) (run : List (List (Place × Limit) × Use)) :
    (f.trace run).map Prod.fst = run.map Prod.snd := by
  induction run generalizing f with
  | nil => rfl
  | cons first rest ih => rw [trace, List.map_cons, List.map_cons, ih]

theorem stopsIn_last (f : FiledHosts) (run : List (List (Place × Limit) × Use)) (u : List (Place × Limit) × Use) :
    f.StopsIn (run ++ [u]) ↔ f.StopsIn run ∨ ((f.after run).under u.1).StopsAt u.2 := by
  induction run generalizing f with
  | nil => simp [StopsIn, after]
  | cons first rest ih =>
      rw [List.cons_append, StopsIn, StopsIn, ih, or_assoc]
      rfl

theorem upToSave_drained {u : Use × FiledHosts} (empty : drained u = true) (run : List (Use × FiledHosts)) :
    upToSave (run ++ [u]) = run.map Prod.fst ++ [u.1] := by
  simp [upToSave, empty]

theorem upToSave_other {u : Use × FiledHosts} (other : drained u = false) (run : List (Use × FiledHosts)) :
    upToSave (run ++ [u]) = upToSave run := by
  simp [upToSave, other]

theorem under_dirs (f : FiledHosts) (limits : List (Place × Limit)) : FileSystem.OnlyDirs f.files (f.under limits).files :=
  ⟨⟨rfl, fun _ _ there => there⟩, fun _ _ there => Or.inl there⟩

theorem use_add (f : FiledHosts) (e : Entry) :
    (f.use (.add e)).1 = .done ∧
      (f.use (.add e)).2.2 = if e.known ∈ f.store.keys then f else { f with store := f.store.plus [e.known] } := by
  refine ⟨rfl, ?_⟩
  show ({ f with store := (f.store.add e.host e.port e.keyType e.key).1 } : FiledHosts) = _
  rw [add_entry]
  by_cases known : e.known ∈ f.store.keys
  · rw [if_pos known, if_pos known]
  · rw [if_neg known, if_neg known]

theorem use_save (f : FiledHosts) :
    ∃ outcome events, SaveEnds f.store f.files outcome ∧ f.use .save =
      match outcome with
      | .ok (store, files) => (.done, events, ⟨store, files⟩)
      | .error (e, store, files) => (.failed e, events, ⟨store, files⟩) := by
  refine ⟨(f.store.save f.files).1, (f.store.save f.files).2, save_ends f.store f.files, ?_⟩
  rw [use]
  cases f.store.save f.files with
  | mk outcome events =>
      cases outcome with
      | ok saved => rfl
      | error failure => rfl

theorem idle_clear (nothing : f.store.pending = []) : ¬ f.StopsAt .save := by
  intro stops
  obtain ⟨_, _, waiting, _⟩ := stops
  exact waiting nothing

-- The mark of a save that stops while it writes: it fails and leaves nothing pending.
theorem stopsAt_iff (f : FiledHosts) :
    f.StopsAt .save ↔ f.store.pending ≠ [] ∧ (f.use .save).1 ≠ .done ∧ (f.use .save).2.2.store.pending = [] := by
  obtain ⟨outcome, events, ends, ran⟩ := use_save f
  rw [ran]
  cases ends with
  | idle nothing => simp [idle_clear nothing]
  | barred waiting clear dirs => exact iff_of_false clear fun failed => waiting failed.2.2
  | stopped stops grown => exact iff_of_true ⟨_, _, stops⟩ ⟨stops.1, nofun, rfl⟩
  | written waiting clear grown => exact iff_of_false clear fun failed => failed.2.1 rfl

instance (f : FiledHosts) : ∀ u, Decidable (f.StopsAt u)
  | .save => decidable_of_iff _ f.stopsAt_iff.symm
  | .add _ => isFalse id
  | .check _ => isFalse id

instance decidableStopsIn : ∀ (f : FiledHosts) (run : List (List (Place × Limit) × Use)), Decidable (f.StopsIn run)
  | _, [] => isFalse id
  | f, u :: later =>
    have := decidableStopsIn (f.next u) later
    inferInstanceAs (Decidable ((f.under u.1).StopsAt u.2 ∨ (f.next u).StopsIn later))

end Runs

-- Where a run has come to: the keys that were given to the file, a batch for each save that opened it, and those that
-- still wait.
structure Accounted (start : FiledHosts) (run : List (List (Place × Limit) × Use)) (batches : List Batch)
    (waiting : List KnownKey) (now : FiledHosts) : Prop where
  fresh : fresh start.store.keys (run.map Prod.snd) = batches.flatMap Prod.fst ++ waiting
  keys : now.store.keys = start.store.keys ++ KnownHosts.fresh start.store.keys (run.map Prod.snd)
  pending : now.store.pending = waiting.map line
  path : now.store.path = start.store.path
  gained : FileSystem.Gained start.files now.files start.store.path (batches.flatMap Prod.snd)
  part : ∀ b ∈ batches, b.Part
  whole : (∀ b ∈ batches, b.Whole) ↔ ¬ start.StopsIn run

namespace Accounted

variable {start now : FiledHosts} {run : List (List (Place × Limit) × Use)} {batches : List Batch} {waiting : List KnownKey}
  {limits : List (Place × Limit)}

theorem rests (clean : start.store.pending = []) : Accounted start [] [] [] start where
  fresh := rfl
  keys := (List.append_nil _).symm
  pending := clean
  path := rfl
  gained := Or.inl ⟨rfl, FileSystem.OnlyDirs.refl start.files⟩
  part := fun _ member => nomatch member
  whole := by simp [StopsIn]

theorem fresh_last (accounted : Accounted start run batches waiting now) (u : List (Place × Limit) × Use) :
    KnownHosts.fresh start.store.keys ((run ++ [u]).map Prod.snd) =
      KnownHosts.fresh start.store.keys (run.map Prod.snd) ++ KnownHosts.fresh now.store.keys [u.2] := by
  rw [List.map_append, List.map_singleton, fresh_append, accounted.keys]

theorem under (accounted : Accounted start run batches waiting now) (limits : List (Place × Limit)) :
    Accounted start run batches waiting (now.under limits) where
  fresh := accounted.fresh
  keys := accounted.keys
  pending := accounted.pending
  path := accounted.path
  gained := by
    have same := accounted.gained.trans (Or.inl ⟨rfl, now.under_dirs limits⟩)
    rw [List.append_nil] at same
    exact same
  part := accounted.part
  whole := accounted.whole

theorem idles (accounted : Accounted start run batches waiting now) (timed : (start.after run).under limits = now) {u : Use}
    {files : FileSystem} (silent : KnownHosts.fresh now.store.keys [u] = []) (clear : ¬ now.StopsAt u)
    (dirs : FileSystem.OnlyDirs now.files files) :
    Accounted start (run ++ [(limits, u)]) batches waiting ⟨now.store, files⟩ where
  fresh := by rw [accounted.fresh_last, accounted.fresh, silent, List.append_nil]
  keys := by rw [accounted.fresh_last, silent, List.append_nil, accounted.keys]
  pending := accounted.pending
  path := accounted.path
  gained := by
    have same := accounted.gained.trans (Or.inl ⟨rfl, dirs⟩)
    rw [List.append_nil] at same
    exact same
  part := accounted.part
  whole := by rw [accounted.whole, stopsIn_last, timed, or_iff_left clear]

theorem adds (accounted : Accounted start run batches waiting now) (timed : (start.after run).under limits = now) {e : Entry}
    (unknown : e.known ∉ now.store.keys) :
    Accounted start (run ++ [(limits, .add e)]) batches (waiting ++ [e.known]) ⟨now.store.plus [e.known], now.files⟩ where
  fresh := by
    rw [accounted.fresh_last, accounted.fresh, KnownHosts.fresh, if_neg unknown, KnownHosts.fresh, List.append_assoc]
  keys := by
    rw [accounted.fresh_last, KnownHosts.fresh, if_neg unknown, KnownHosts.fresh, ← List.append_assoc, ← accounted.keys, plus]
  pending := by rw [plus, accounted.pending, List.map_append]
  path := accounted.path
  gained := accounted.gained
  part := accounted.part
  whole := by
    have clear : ¬ now.StopsAt (.add e) := id
    rw [accounted.whole, stopsIn_last, timed, or_iff_left clear]

theorem drains (accounted : Accounted start run batches waiting now) (timed : (start.after run).under limits = now)
    {disk : FileSystem} {taken : Bytes} (part : taken <+: Bytes.ofString (text waiting))
    (whole : taken = Bytes.ofString (text waiting) ↔ ¬ now.StopsAt .save)
    (grown : FileSystem.Grown now.files disk now.store.path taken) :
    Accounted start (run ++ [(limits, .save)]) (batches ++ [(waiting, taken)]) [] ⟨{ now.store with pending := [] }, disk⟩ where
  fresh := by
    rw [accounted.fresh_last, accounted.fresh, KnownHosts.fresh, KnownHosts.fresh, List.append_nil, List.append_nil,
      List.flatMap_append, List.flatMap_singleton]
  keys := by rw [accounted.fresh_last, KnownHosts.fresh, KnownHosts.fresh, List.append_nil, accounted.keys]
  pending := rfl
  path := accounted.path
  gained := by
    rw [List.flatMap_append, List.flatMap_singleton]
    exact accounted.gained.trans (Or.inr (accounted.path ▸ grown))
  part := by
    intro b member
    cases List.mem_append.mp member with
    | inl earlier => exact accounted.part b earlier
    | inr last =>
        cases List.mem_singleton.mp last
        exact part
  whole := by
    rw [stopsIn_last, timed, not_or, ← accounted.whole, ← whole, List.forall_mem_append, List.forall_mem_singleton]
    rfl

end Accounted

theorem accounted_use {start now : FiledHosts} {run : List (List (Place × Limit) × Use)} {batches : List Batch}
    {waiting : List KnownKey} {limits : List (Place × Limit)} (accounted : Accounted start run batches waiting now)
    (timed : (start.after run).under limits = now) (u : Use) :
    (drained (u, (now.use u).2.2) = false ∧
      ∃ added, Accounted start (run ++ [(limits, u)]) batches (waiting ++ added) (now.use u).2.2) ∨
    (drained (u, (now.use u).2.2) = true ∧
      ∃ more, Accounted start (run ++ [(limits, u)]) (batches ++ more) [] (now.use u).2.2) := by
  have same := FileSystem.OnlyDirs.refl now.files
  cases u with
  | add e =>
      left
      obtain ⟨_, ended⟩ := use_add now e
      rw [ended]
      by_cases known : e.known ∈ now.store.keys
      · have silent : KnownHosts.fresh now.store.keys [.add e] = [] := by rw [KnownHosts.fresh, if_pos known, KnownHosts.fresh]
        rw [if_pos known]
        exact ⟨rfl, [], by simpa using accounted.idles timed silent id same⟩
      · rw [if_neg known]
        exact ⟨rfl, [e.known], accounted.adds timed known⟩
  | check e =>
      left
      have idle := accounted.idles (u := .check e) timed rfl id same
      exact ⟨rfl, [], by rw [List.append_nil]; exact idle⟩
  | save =>
      obtain ⟨outcome, events, ends, ran⟩ := use_save now
      have lines : now.store.pendingText = Bytes.ofString (text waiting) := pendingText_lines accounted.pending
      rw [ran]
      cases ends with
      | idle nothing =>
          right
          have none_waiting : waiting = [] := List.map_eq_nil_iff.mp (accounted.pending.symm.trans nothing)
          have idle := accounted.idles (u := .save) timed rfl (idle_clear nothing) same
          rw [none_waiting] at idle
          exact ⟨by simpa [drained] using nothing, [], by simpa using idle⟩
      | barred some_pending clear dirs =>
          left
          have idle := accounted.idles (u := .save) timed rfl clear dirs
          exact ⟨by simpa [drained] using some_pending, [], by simpa using idle⟩
      | @stopped taken refusal disk stops grown =>
          right
          obtain ⟨part, less⟩ := stops.part
          rw [lines] at part less
          have whole : taken = Bytes.ofString (text waiting) ↔ ¬ now.StopsAt .save :=
            ⟨fun all => absurd all less, fun clear => absurd ⟨taken, refusal, stops⟩ clear⟩
          exact ⟨rfl, [(waiting, taken)], accounted.drains timed part whole grown⟩
      | written some_pending clear grown =>
          right
          have whole : Bytes.ofString (text waiting) = Bytes.ofString (text waiting) ↔ ¬ now.StopsAt .save :=
            ⟨fun _ => clear, fun _ => rfl⟩
          rw [lines] at grown
          exact ⟨rfl, [(waiting, _)], accounted.drains timed (List.prefix_refl _) whole grown⟩

theorem accounted (start : FiledHosts) (clean : start.store.pending = []) (run : List (List (Place × Limit) × Use)) :
    ∃ batches waiting, Accounted start run batches waiting (start.after run) ∧
      batches.flatMap Prod.fst = KnownHosts.fresh start.store.keys (upToSave (start.trace run)) := by
  induction run using List.reverseRecOn with
  | nil => exact ⟨[], [], Accounted.rests clean, rfl⟩
  | append_singleton run u ih =>
      obtain ⟨batches, waiting, so_far, settled⟩ := ih
      rw [after_last, trace_last, next]
      cases accounted_use (so_far.under u.1) rfl u.2 with
      | inl other =>
          obtain ⟨pending, added, step⟩ := other
          rw [upToSave_other pending]
          exact ⟨batches, waiting ++ added, step, settled⟩
      | inr saved =>
          obtain ⟨empty, more, step⟩ := saved
          rw [upToSave_drained empty, trace_uses]
          have all := step.fresh
          rw [List.append_nil, List.map_append] at all
          exact ⟨batches ++ more, [], step, all.symm⟩

theorem Accounted.mem_keys {start now : FiledHosts} {run : List (List (Place × Limit) × Use)} {batches : List Batch}
    {waiting : List KnownKey} (accounted : Accounted start run batches waiting now) (k : KnownKey) :
    k ∈ now.store.keys ↔ k ∈ start.store.keys ∨ ∃ e, .add e ∈ run.map Prod.snd ∧ k = e.known := by
  rw [accounted.keys, List.mem_append, mem_fresh_iff]
  by_cases old : k ∈ start.store.keys
  · simp only [old, true_or]
  · simp only [old, not_false_eq_true, true_and]

theorem keys_grow (start : FiledHosts) (clean : start.store.pending = []) (run later : List (List (Place × Limit) × Use))
    {k : KnownKey} (known : k ∈ (start.after run).store.keys) : k ∈ ((start.after run).after later).store.keys := by
  obtain ⟨_, _, before, _⟩ := accounted start clean run
  obtain ⟨_, _, then_on, _⟩ := accounted start clean (run ++ later)
  rw [after_append] at then_on
  rw [then_on.mem_keys, List.map_append]
  cases (before.mem_keys k).mp known with
  | inl old => exact Or.inl old
  | inr added =>
      obtain ⟨e, member, same⟩ := added
      exact Or.inr ⟨e, List.mem_append_left _ member, same⟩

structure NextSave (now : FiledHosts) (waiting : List KnownKey) : Prop where
  idle : waiting = [] → now.use .save = (.done, [], now)
  barred : ∀ e, (now.use .save).1 = .failed e → ¬ now.StopsAt .save →
    (now.use .save).2.2.store = now.store ∧ FileSystem.OnlyDirs now.files (now.use .save).2.2.files
  stopped : now.StopsAt .save → ∃ taken refusal, now.store.Stops now.files taken refusal ∧
    (now.use .save).1 = .failed (.io refusal) ∧ (now.use .save).2.2.store = { now.store with pending := [] } ∧
      FileSystem.Appended now.files (now.use .save).2.2.files now.store.path taken
  written : waiting ≠ [] → (now.use .save).1 = .done →
    ¬ now.StopsAt .save ∧ (now.use .save).2.2.store = { now.store with pending := [] } ∧
      FileSystem.Appended now.files (now.use .save).2.2.files now.store.path (Bytes.ofString (text waiting))

theorem next_save {now : FiledHosts} {waiting : List KnownKey} (pending : now.store.pending = waiting.map line) :
    NextSave now waiting := by
  obtain ⟨outcome, events, ends, ran⟩ := use_save now
  constructor
  case idle =>
    intro none_waiting
    have idle : now.store.save now.files = (.ok (now.store, now.files), []) := by
      simp [KnownHosts.save, pending, none_waiting]
    simp only [use, idle]
  case barred =>
    intro e
    rw [ran]
    cases ends with
    | idle nothing =>
        intro done
        cases done
    | barred some_pending clear dirs => exact fun _ _ => ⟨rfl, dirs⟩
    | @stopped taken refusal disk stops grown => exact fun _ clear => absurd ⟨taken, refusal, stops⟩ clear
    | written some_pending clear grown =>
        intro done
        cases done
  case stopped =>
    intro stops
    obtain ⟨taken, refusal, stops⟩ := stops
    rw [ran]
    cases ends with
    | idle nothing => exact absurd nothing stops.1
    | barred some_pending clear dirs => exact absurd ⟨taken, refusal, stops⟩ clear
    | stopped stops grown => exact ⟨_, _, stops, rfl, rfl, grown.appended⟩
    | written some_pending clear grown => exact absurd ⟨taken, refusal, stops⟩ clear
  case written =>
    intro some_waiting
    rw [ran]
    cases ends with
    | idle nothing => exact absurd (List.map_eq_nil_iff.mp (pending.symm.trans nothing)) some_waiting
    | barred some_pending clear dirs =>
        intro failed
        cases failed
    | stopped stops grown =>
        intro failed
        cases failed
    | written some_pending clear grown =>
        intro _
        rw [pendingText_lines pending] at grown
        exact ⟨clear, rfl, grown.appended⟩

theorem done_drains {now : FiledHosts} (done : (now.use .save).1 = .done) :
    (now.use .save).2.2.store.pending = [] ∧ ¬ now.StopsAt .save := by
  obtain ⟨outcome, events, ends, ran⟩ := use_save now
  rw [ran] at done ⊢
  cases ends with
  | idle nothing => exact ⟨nothing, idle_clear nothing⟩
  | barred some_pending clear dirs => cases done
  | stopped stops grown => cases done
  | written some_pending clear grown => exact ⟨rfl, clear⟩

theorem saved_iff (start : FiledHosts) (clean : start.store.pending = []) (run : List (List (Place × Limit) × Use))
    {limits : List (Place × Limit)} (done : (((start.after run).under limits).use .save).1 = .done) :
    FileSystem.Gained start.files (((start.after run).under limits).use .save).2.2.files start.store.path
        (Bytes.ofString (text (KnownHosts.fresh start.store.keys (run.map Prod.snd)))) ↔ ¬ start.StopsIn run := by
  obtain ⟨batches, waiting, ended, _⟩ := accounted start clean (run ++ [(limits, .save)])
  obtain ⟨empty, clear⟩ := done_drains done
  have now : start.after (run ++ [(limits, .save)]) = (((start.after run).under limits).use .save).2.2 := after_last _ _ _
  rw [now] at ended
  have none_waiting : waiting = [] := List.map_eq_nil_iff.mp (ended.pending.symm.trans empty)
  have all : KnownHosts.fresh start.store.keys (run.map Prod.snd) = batches.flatMap Prod.fst := by
    have fresh := ended.fresh
    rw [none_waiting, List.append_nil, List.map_append, fresh_append, List.map_singleton, KnownHosts.fresh, KnownHosts.fresh,
      List.append_nil] at fresh
    exact fresh
  have stopped := ended.whole
  rw [stopsIn_last, or_iff_left clear] at stopped
  rw [all, ← stopped, ← taken_whole_iff ended.part]
  constructor
  · exact fun gained => ended.gained.unique gained
  · intro whole
    rw [← whole]
    exact ended.gained

theorem additions_written_iff {fs : FileSystem} {path : String} {store : KnownHosts}
    (loaded : (load fs path).1 = .ok store) (run : List (List (Place × Limit) × Use)) :
    ∃ batches waiting,
      Accounted ⟨store, fs⟩ run batches waiting (after ⟨store, fs⟩ run) ∧
      batches.flatMap Prod.fst = KnownHosts.fresh store.keys (upToSave (trace ⟨store, fs⟩ run)) ∧
      (KnownHosts.fresh store.keys (run.map Prod.snd)).Nodup ∧
      (∀ k, k ∈ KnownHosts.fresh store.keys (run.map Prod.snd) ↔
        k ∉ store.keys ∧ ∃ e, .add e ∈ run.map Prod.snd ∧ k = e.known) ∧
      (∀ host port keyType key answer, ((after ⟨store, fs⟩ run).store.check host port keyType key).1 = answer ↔
        Tells (fun k => k ∈ store.keys ∨ ∃ e, .add e ∈ run.map Prod.snd ∧ k = e.known) (hostPattern host port) keyType key
          answer) ∧
      (∀ e, .add e ∈ run.map Prod.snd →
        ((after ⟨store, fs⟩ run).store.check e.host e.port e.keyType e.key).1 = .verified) ∧
      (∀ host port keyType key later, ((after ⟨store, fs⟩ run).store.check host port keyType key).1 = .verified →
        (((after ⟨store, fs⟩ run).after later).store.check host port keyType key).1 = .verified) ∧
      (∀ host port keyType,
        (∀ e, .add e ∈ run.map Prod.snd → hostPattern e.host e.port = hostPattern host port → e.keyType ≠ keyType) →
        ∀ key, ((after ⟨store, fs⟩ run).store.check host port keyType key).1 = (store.check host port keyType key).1) ∧
      ∀ limits, NextSave ((after ⟨store, fs⟩ run).under limits) waiting ∧
        ((((after ⟨store, fs⟩ run).under limits).use .save).1 = .done →
          (FileSystem.Gained fs (((after ⟨store, fs⟩ run).under limits).use .save).2.2.files path
            (Bytes.ofString (text (KnownHosts.fresh store.keys (run.map Prod.snd)))) ↔ ¬ StopsIn ⟨store, fs⟩ run)) := by
  obtain ⟨named, clean⟩ := load_clean loaded
  obtain ⟨batches, waiting, now, settled⟩ := accounted ⟨store, fs⟩ clean run
  have answers : ∀ host port keyType key answer,
      ((after ⟨store, fs⟩ run).store.check host port keyType key).1 = answer ↔
        Tells (fun k => k ∈ store.keys ∨ ∃ e, .add e ∈ run.map Prod.snd ∧ k = e.known) (hostPattern host port) keyType key
          answer := by
    intro host port keyType key answer
    rw [check_iff]
    exact tells_congr (fun key => now.mem_keys _) answer
  refine ⟨batches, waiting, now, settled, fresh_nodup store.keys _, fun _ => mem_fresh_iff, answers, ?_, ?_, ?_, ?_⟩
  · intro e added
    exact (answers e.host e.port e.keyType e.key .verified).mpr (Or.inr ⟨e, added, rfl⟩)
  · intro host port keyType key later verified
    rw [check_verified_iff] at verified ⊢
    exact keys_grow ⟨store, fs⟩ clean run later verified
  · intro host port keyType apart key
    rw [answers]
    have as_loaded := (check_iff store host port keyType key _).mp rfl
    refine (tells_congr (fun key => ?_) _).mp as_loaded
    constructor
    · exact fun old => Or.inl old
    · intro either
      cases either with
      | inl old => exact old
      | inr added =>
          obtain ⟨e, member, same⟩ := added
          injection same with pattern type _
          exact absurd type.symm (apart e member pattern.symm)
  · intro limits
    refine ⟨next_save (now.under limits).pending, ?_⟩
    intro done
    rw [← named]
    exact saved_iff ⟨store, fs⟩ clean run done

def busy : List (List (Place × Limit) × Use) :=
  [.add ⟨"b", 22, "t", "B"⟩, .add ⟨"B", 22, "t", "B"⟩, .save, .add ⟨"a", 22, "t", "C"⟩, .check ⟨"a", 22, "t", "A"⟩, .save,
    .save, .add ⟨"a", 22, "t", "A"⟩, .add ⟨"c", 22, "t", "D"⟩].map fun u => ([], u)

def crowded : List (List (Place × Limit) × Use) :=
  [([], .add ⟨"b", 22, "t", "B"⟩), ([(["tmp", "work", "known_hosts"], ⟨8, .ofText "No space left"⟩)], .save),
    ([], .add ⟨"c", 22, "t", "D"⟩)]

theorem busy_and_crowded_saved :
    ∃ store, (load (onDisk "a t A\n") "known_hosts").1 = .ok store ∧
      (((after ⟨store, onDisk "a t A\n"⟩ busy).under []).use .save).1 = .done ∧
      FileSystem.Gained (onDisk "a t A\n") (((after ⟨store, onDisk "a t A\n"⟩ busy).under []).use .save).2.2.files
        "known_hosts" (Bytes.ofString "b t B\na t C\nc t D\n") ∧
      ((after ⟨store, onDisk "a t A\n"⟩ busy).store.check "c" 22 "t" "D").1 = .verified ∧
      (((after ⟨store, onDisk "a t A\n"⟩ crowded).under []).use .save).1 = .done ∧
      (((after ⟨store, onDisk "a t A\n"⟩ crowded).under []).use .save).2.2.files.read "known_hosts" =
        .ok (Bytes.ofString "a t A\nb c t D\n") ∧
      ¬ FileSystem.Gained (onDisk "a t A\n") (((after ⟨store, onDisk "a t A\n"⟩ crowded).under []).use .save).2.2.files
        "known_hosts" (Bytes.ofString "b t B\nc t D\n") := by
  have found : (onDisk "a t A\n").readText "known_hosts" = .ok "a t A\n" := by decide +kernel
  have loaded := load_text found
  obtain ⟨_, _, _, _, _, _, _, verified, _, _, saves⟩ := additions_written_iff loaded busy
  obtain ⟨_, _, _, _, _, _, _, _, _, _, stops⟩ := additions_written_iff loaded crowded
  have last : Use.add ⟨"c", 22, "t", "D"⟩ ∈ busy.map Prod.snd := by simp [busy]
  have busy_done : (((after ⟨⟨"known_hosts", readKeys "a t A\n", []⟩, onDisk "a t A\n"⟩ busy).under []).use .save).1 = .done := by
    decide +kernel
  have crowded_done :
      (((after ⟨⟨"known_hosts", readKeys "a t A\n", []⟩, onDisk "a t A\n"⟩ crowded).under []).use .save).1 = .done := by
    decide +kernel
  have kept := ((saves []).2 busy_done).mpr (by decide +kernel)
  have lost := ((stops []).2 crowded_done).not.mpr (not_not_intro (by decide +kernel))
  have busy_text : text (KnownHosts.fresh (readKeys "a t A\n") (busy.map Prod.snd)) = "b t B\na t C\nc t D\n" := by
    decide +kernel
  have crowded_text : text (KnownHosts.fresh (readKeys "a t A\n") (crowded.map Prod.snd)) = "b t B\nc t D\n" := by
    decide +kernel
  rw [busy_text] at kept
  rw [crowded_text] at lost
  exact ⟨_, loaded, busy_done, kept, verified ⟨"c", 22, "t", "D"⟩ last, crowded_done, by decide +kernel, lost⟩

theorem refused_line_forgotten :
    ∃ store, (load FileSystem.empty "/proc/self/oom_score_adj").1 = .ok store ∧ store.pending = [] ∧
      ((after ⟨store, FileSystem.empty⟩ [(FileSystem.empty.limits, .add dbKey)]).use .save).1 =
        .failed (.io .invalidArgument) ∧
      ((after ⟨store, FileSystem.empty⟩ ([.add dbKey, .save].map fun u => (FileSystem.empty.limits, u))).use .save).1 = .done ∧
      ((after ⟨store, FileSystem.empty⟩ ([.add dbKey, .save, .save].map fun u => (FileSystem.empty.limits, u))).files.read
        "/proc/self/oom_score_adj") = .ok (Bytes.ofString "0\n") ∧
      ((after ⟨store, FileSystem.empty⟩ ([.add dbKey, .save, .save].map fun u => (FileSystem.empty.limits, u))).store.check
        "db" 22 "ssh-rsa" "BBBB").1 = .verified := by
  have found : FileSystem.empty.readText "/proc/self/oom_score_adj" = .ok "0\n" := by decide +kernel
  refine ⟨_, load_text found, rfl, ?_, ?_, ?_, ?_⟩
  all_goals decide +kernel

end FiledHosts
end RemoteExec

import RemoteExec.Json.Reader

namespace RemoteExec.Json

def Sorted (entries : List (String × Json)) : Prop := entries.Pairwise fun earlier later => earlier.1 < later.1

variable {entries made : List (String × Json)}

theorem name_above {name other : String} (differs : name ≠ other) (above : ¬name < other) : other < name := by
  by_cases below : other < name
  · exact below
  · exact absurd (String.le_antisymm (String.not_lt.mp below) (String.not_lt.mp above)) differs

theorem mem_insert {name : String} {value : Json} {entry : String × Json} (member : entry ∈ insert name value entries) :
    entry = (name, value) ∨ entry ∈ entries := by
  induction entries with
  | nil => exact Or.inl (List.mem_singleton.mp member)
  | cons first rest ih =>
      rw [insert] at member
      split at member
      · cases List.mem_cons.mp member with
        | inl new => exact Or.inl new
        | inr later => exact Or.inr (List.mem_cons_of_mem _ later)
      · split at member
        · exact List.mem_cons.mp member
        · cases List.mem_cons.mp member with
          | inl here => exact Or.inr (List.mem_cons.mpr (Or.inl here))
          | inr later =>
              cases ih later with
              | inl new => exact Or.inl new
              | inr old => exact Or.inr (List.mem_cons_of_mem _ old)

theorem sorted_insert (sorted : Sorted entries) (name : String) (value : Json) : Sorted (insert name value entries) := by
  induction entries with
  | nil => exact List.pairwise_singleton _ _
  | cons first rest ih =>
      obtain ⟨other, v⟩ := first
      obtain ⟨below, later⟩ := List.pairwise_cons.mp sorted
      rw [insert]
      by_cases same : name = other
      · rw [if_pos same, same]
        exact List.pairwise_cons.mpr ⟨below, later⟩
      · rw [if_neg same]
        by_cases less : name < other
        · rw [if_pos less]
          refine List.pairwise_cons.mpr ⟨?_, sorted⟩
          intro entry member
          cases List.mem_cons.mp member with
          | inl here =>
              rw [here]
              exact less
          | inr behind => exact String.lt_trans less (below entry behind)
        · rw [if_neg less]
          refine List.pairwise_cons.mpr ⟨?_, ih later⟩
          intro entry member
          cases mem_insert member with
          | inl new =>
              rw [new]
              exact name_above same less
          | inr old => exact below entry old

theorem lookup_absent {name : String} (absent : ∀ entry ∈ entries, entry.1 ≠ name) : lookup name entries = none := by
  induction entries with
  | nil => rfl
  | cons first rest ih =>
      obtain ⟨here, later⟩ := List.forall_mem_cons.mp absent
      rw [lookup, if_neg here, ih later]

theorem lookup_filter (sorted : Sorted entries) (keeps : String × Json → Bool) (name : String) :
    lookup name (entries.filter keeps) = (lookup name entries).filter fun v => keeps (name, v) := by
  induction entries with
  | nil => rfl
  | cons first rest ih =>
      obtain ⟨other, v⟩ := first
      obtain ⟨below, later⟩ := List.pairwise_cons.mp sorted
      rw [List.filter_cons]
      by_cases here : other = name
      · have absent : ∀ entry ∈ rest.filter keeps, entry.1 ≠ name := by
          intro entry member same
          have less := below entry (List.mem_filter.mp member).1
          rw [same, here] at less
          exact String.lt_irrefl name less
        rw [← here] at absent ⊢
        by_cases kept : keeps (other, v) = true
        · rw [if_pos kept, lookup, if_pos rfl, lookup, if_pos rfl, Option.filter_some, if_pos kept]
        · rw [if_neg kept, lookup_absent absent, lookup, if_pos rfl, Option.filter_some, if_neg kept]
      · rw [lookup, if_neg here, ← ih later]
        by_cases kept : keeps (other, v) = true
        · rw [if_pos kept, lookup, if_neg here]
        · rw [if_neg kept]

theorem readEntries_sorted {fuel depth : Nat} {s rest : Rest} (sorted : Sorted entries)
    (read : readEntries fuel depth entries s = some (.obj made, rest)) : Sorted made := by
  induction fuel generalizing entries s with
  | zero => cases read
  | succ fuel ih =>
      rw [readEntries] at read
      split at read
      next =>
        split at read
        next => cases read
        next name _ _ =>
          split at read
          next =>
            split at read
            next => cases read
            next v _ _ =>
              split at read
              next => exact ih (sorted_insert sorted name v) read
              next =>
                cases read
                exact sorted_insert sorted name v
              next => cases read
          next => cases read
      next => cases read

theorem readItems_sorted {fuel depth : Nat} {items : List Json} {s rest : Rest}
    (read : readItems fuel depth items s = some (.obj made, rest)) : Sorted made := by
  induction fuel generalizing items s with
  | zero => cases read
  | succ fuel ih =>
      rw [readItems] at read
      split at read
      next => cases read
      next =>
        split at read
        next => exact ih read
        next => cases read
        next => cases read

theorem readWord_value {word : List Char} {value v : Json} {s rest : Rest} (read : readWord word value s = some (v, rest)) :
    v = value := by
  rw [readWord] at read
  split at read
  next =>
    cases read
    rfl
  next => cases read

theorem readValue_sorted {fuel depth : Nat} {s rest : Rest}
    (read : readValue fuel depth s = some (.obj made, rest)) : Sorted made := by
  cases fuel with
  | zero => cases read
  | succ fuel =>
      rw [readValue] at read
      split at read
      next => cases readWord_value read
      next => cases readWord_value read
      next => cases readWord_value read
      next =>
        obtain ⟨_, _, same⟩ := Option.map_eq_some_iff.mp read
        cases same
      next =>
        obtain ⟨_, _, same⟩ := Option.map_eq_some_iff.mp read
        cases same
      next =>
        split at read
        next => cases read
        next =>
          split at read
          next => cases read
          next => exact readItems_sorted read
      next =>
        split at read
        next => cases read
        next =>
          split at read
          next =>
            cases read
            exact List.Pairwise.nil
          next => exact readEntries_sorted List.Pairwise.nil read
      next =>
        obtain ⟨_, _, same⟩ := Option.map_eq_some_iff.mp read
        cases same

theorem parse?_sorted {text : String} (read : parse? text = some (.obj entries)) : Sorted entries := by
  rw [parse?] at read
  split at read
  next v rest value =>
    split at read
    next =>
      cases read
      exact readValue_sorted value
    next => cases read
  next => cases read

end RemoteExec.Json

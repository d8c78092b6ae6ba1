import RemoteExec.Proofs.HostKeys.Admission
import RemoteExec.Proofs.HostKeys.Reloading

namespace RemoteExec

def HostKey.entry (k : HostKey) : KnownHosts.Entry := ⟨k.hostname, k.port, k.keyType, k.publicKey⟩

namespace Gate

open KnownHosts

-- The keys that were trusted stand in the file after what it had. If that ended where a line ends and the keys can
-- be told from comments and marks, they are known once the file is loaded again.
def Records (g : Gate) (fs disk : FileSystem) : Prop :=
  ∃ content added, disk.read g.store.path = .ok (content ++ Bytes.ofString (text added)) ∧
    (∀ old, fs.read g.store.path = .ok old → content = old) ∧ (∀ k ∈ g.trusted, k.entry.known ∈ added) ∧
    ∀ old, content.toString? = some old → Ended old → (∀ k ∈ g.trusted, k.entry.WellFormed) →
      ∃ reloaded, (load disk g.store.path).1 = .ok reloaded ∧
        ∀ k ∈ g.trusted, reloaded.status k.hostname k.port k.keyType k.publicKey = .verified

theorem recorded_store (g : Gate) : g.recorded.1 = g.store.addAll (g.trusted.map HostKey.entry) := by
  have folded : ∀ (keys : List HostKey) (store : KnownHosts) (events : List Event),
      (keys.foldl (fun (done : KnownHosts × List Event) k =>
        ((done.1.add k.hostname k.port k.keyType k.publicKey).1,
          done.2 ++ (done.1.add k.hostname k.port k.keyType k.publicKey).2)) (store, events)).1 =
        store.addAll (keys.map HostKey.entry) := by
    intro keys
    induction keys with
    | nil => intro store events; rfl
    | cons k rest ih => intro store events; exact ih _ _
  exact folded g.trusted g.store []

structure Unsaved (g : Gate) : Prop where
  pending : g.store.pending = []
  unknown : ∀ k ∈ g.trusted, k.entry.known ∉ g.store.keys

theorem persist_saves {g : Gate} {fs disk : FileSystem} (checks : g.policy.checking = true) (some_trusted : g.trusted ≠ [])
    (saved : (g.persist fs).1 = .ok disk) :
    ∃ store, ((g.store.addAll (g.trusted.map HostKey.entry)).save fs).1 = .ok (store, disk) := by
  have busy : ¬ (g.policy.checking = false ∨ g.trusted = []) := by simp [checks, some_trusted]
  simp only [persist, Bool.or_eq_true, Bool.not_eq_true', List.isEmpty_iff, if_neg busy, recorded_store] at saved
  cases ran : (g.store.addAll (g.trusted.map HostKey.entry)).save fs with
  | mk outcome events =>
      rw [ran] at saved
      cases outcome with
      | error e => cases saved
      | ok result =>
          cases saved
          exact ⟨_, rfl⟩

theorem persist_records {g : Gate} (unsaved : g.Unsaved) {fs disk : FileSystem} (checks : g.policy.checking = true)
    (some_trusted : g.trusted ≠ []) (saved : (g.persist fs).1 = .ok disk) : g.Records fs disk := by
  obtain ⟨added, grown, origin, known⟩ := addAll_plus g.store (g.trusted.map HostKey.entry)
  have listed : ∀ k ∈ g.trusted, k.entry.known ∈ added := by
    intro k trusted
    rcases List.mem_append.mp (known k.entry (List.mem_map_of_mem trusted)) with old | fresh
    · exact absurd old (unsaved.unknown k trusted)
    · exact fresh
  have some_added : added ≠ [] := by
    obtain ⟨k, trusted⟩ := List.exists_mem_of_ne_nil _ some_trusted
    exact List.ne_nil_of_mem (listed k trusted)
  have pending : (g.store.plus added).pending = added.map line := by simp [plus, unsaved.pending]
  obtain ⟨store, written⟩ := persist_saves checks some_trusted saved
  rw [grown] at written
  obtain ⟨_, place, _, now, same, _⟩ := save_appends pending some_added written
  have kept : ∀ old, fs.read g.store.path = .ok old → fs.contentAt place = old := same
  refine ⟨fs.contentAt place, added, now, kept, listed, ?_⟩
  intro old decoded ended wellFormed
  have writable : ∀ k ∈ added, Writable k := by
    intro k member
    obtain ⟨e, inside, rfl⟩ := origin k member
    obtain ⟨key, trusted, rfl⟩ := List.mem_map.mp inside
    exact (wellFormed key trusted).writable
  have decodes : disk.readText g.store.path = .ok (old ++ text added) :=
    (readText_iff _ _ _).mpr ⟨_, now, Bytes.toString_append decoded _⟩
  refine ⟨_, load_text decodes, ?_⟩
  intro k trusted
  apply (status_verified_iff _ _ _ _ _).mpr
  rw [readKeys_appended ended writable]
  exact List.mem_append_right _ (listed k trusted)

section Session

variable {host : String} {port : Nat} {policy : KeyPolicy} {store : KnownHosts}

theorem taken_unknown {outcomes : List (PublicKey × Except Failure Unit)} {k : HostKey}
    (member : k ∈ taken host port policy store outcomes) : k.entry.known ∉ store.keys := by
  obtain ⟨⟨key, outcome⟩, kept, rfl⟩ := List.mem_map.mp member
  have unknown : standing host port store key = .unknown := by
    have conditions := (List.mem_filter.mp kept).2
    simp only [Bool.and_eq_true, beq_iff_eq] at conditions
    exact conditions.1.2
  intro known
  have verified := (status_verified_iff store host port key.keyType key.base64).mpr known
  rw [standing, verified] at unknown
  cases unknown

theorem run_unsaved (clean : store.pending = []) (operator : Prompter) (keys : List PublicKey) :
    (run host port policy store operator keys).gate.Unsaved := by
  rw [run_gate]
  exact ⟨clean, fun _ member => taken_unknown member⟩

end Session

end Gate
end RemoteExec

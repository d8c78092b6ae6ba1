import RemoteExec.Proofs.Client.Closing
import RemoteExec.Proofs.Crypto.Base64

namespace RemoteExec

section FirstOccurrences

variable {α β : Type} [DecidableEq α] [DecidableEq β]

theorem eraseDups_map {f : α → β} (inj : Function.Injective f) : ∀ l : List α, (l.map f).eraseDups = l.eraseDups.map f
  | [] => rfl
  | a :: rest => by
      have unlike : (fun b => !f b == f a) = fun b => !b == a := by
        funext b
        simp [inj.eq_iff]
      have shorter : (rest.filter fun b => !b == a).length ≤ rest.length := List.length_filter_le _ _
      rw [List.map_cons, List.eraseDups_cons, List.eraseDups_cons, List.map_cons, List.filter_map, Function.comp_def, unlike,
        eraseDups_map inj]
termination_by l => l.length

theorem eraseDups_nodup : ∀ l : List α, l.eraseDups.Nodup
  | [] => List.nodup_nil
  | a :: rest => by
      have shorter : (rest.filter fun b => !b == a).length ≤ rest.length := List.length_filter_le _ _
      rw [List.eraseDups_cons, List.nodup_cons]
      refine ⟨?_, eraseDups_nodup _⟩
      rw [List.mem_eraseDups]
      simp
termination_by l => l.length

end FirstOccurrences

namespace KnownHosts

theorem addAll_fresh (store : KnownHosts) (entries : List Entry) :
    store.addAll entries = store.plus ((entries.map Entry.known).filter fun k => k ∉ store.keys).eraseDups := by
  induction entries generalizing store with
  | nil => simp [addAll, plus]
  | cons e rest ih =>
      have first : store.addAll (e :: rest) = (store.add e.host e.port e.keyType e.key).1.addAll rest := rfl
      by_cases known : e.known ∈ store.keys
      · rw [first, add_entry, if_pos known, ih store]
        simp [known]
      · have later : ((rest.map Entry.known).filter fun k => k ∉ store.keys ++ [e.known]) =
            ((rest.map Entry.known).filter fun k => k ∉ store.keys).filter fun k => !k == e.known := by
          rw [List.filter_filter]
          refine List.filter_congr fun k _ => ?_
          by_cases same : k = e.known
          · simp [same]
          · simp [same]
        have grown : (store.plus [e.known]).keys = store.keys ++ [e.known] := rfl
        have fresh : (decide (e.known ∉ store.keys)) = true := by simpa using known
        rw [first, add_entry, if_neg known, ih (store.plus [e.known]), grown, later, List.map_cons,
          List.filter_cons, if_pos fresh, List.eraseDups_cons]
        simp [plus]

end KnownHosts

namespace Gate

open KnownHosts

section Session

variable (host : String) (port : Nat) (policy : KeyPolicy) (store : KnownHosts)

def accepted (outcomes : List (PublicKey × Except Failure Unit)) : List PublicKey :=
  (outcomes.filter fun (key, outcome) =>
    policy.checking && standing host port store key == .unknown && outcome.isOk).map Prod.fst

def entryOf (key : PublicKey) : KnownKey := ⟨hostPattern host port, key.keyType, key.base64⟩

theorem entryOf_inj : Function.Injective (entryOf host port) := by
  intro one other same
  obtain ⟨keyType, blob⟩ := one
  obtain ⟨otherType, otherBlob⟩ := other
  simp only [entryOf, PublicKey.base64, KnownKey.mk.injEq, true_and] at same
  obtain ⟨sameType, sameText⟩ := same
  rw [sameType, Base64.encodePadded_inj sameText]

variable {host port policy store} {outcomes : List (PublicKey × Except Failure Unit)}

theorem mem_accepted {key : PublicKey} :
    key ∈ accepted host port policy store outcomes ↔
      policy.checking = true ∧ standing host port store key = .unknown ∧ (key, .ok ()) ∈ outcomes := by
  have fine : ∀ outcome : Except Failure Unit, outcome.isOk = true ↔ outcome = .ok () := by
    intro outcome
    cases outcome with
    | ok done => simp [Except.isOk, Except.toBool]
    | error e => simp [Except.isOk, Except.toBool]
  simp only [accepted, List.mem_map, List.mem_filter, Bool.and_eq_true, beq_iff_eq, fine, Prod.exists]
  constructor
  · rintro ⟨shown, outcome, ⟨member, ⟨checks, unknown⟩, rfl⟩, rfl⟩
    exact ⟨checks, unknown, member⟩
  · rintro ⟨checks, unknown, member⟩
    exact ⟨key, _, ⟨member, ⟨checks, unknown⟩, rfl⟩, rfl⟩

theorem taken_accepted :
    taken host port policy store outcomes = (accepted host port policy store outcomes).map (shown host port) := by
  simp only [taken, accepted, List.map_map]
  rfl

theorem accepted_unknown {k : KnownKey} (member : k ∈ (accepted host port policy store outcomes).map (entryOf host port)) :
    k ∉ store.keys := by
  obtain ⟨key, inside, rfl⟩ := List.mem_map.mp member
  intro known
  have verified := (status_verified_iff store host port key.keyType key.base64).mpr known
  obtain ⟨_, unknown, _⟩ := mem_accepted.mp inside
  rw [standing, verified] at unknown
  cases unknown

theorem recorded_accepted :
    store.addAll ((taken host port policy store outcomes).map HostKey.entry) =
      store.plus ((accepted host port policy store outcomes).eraseDups.map (entryOf host port)) := by
  have entries : ((taken host port policy store outcomes).map HostKey.entry).map Entry.known =
      (accepted host port policy store outcomes).map (entryOf host port) := by
    rw [taken_accepted, List.map_map, List.map_map]
    rfl
  have fresh : ((accepted host port policy store outcomes).map (entryOf host port)).filter (fun k => k ∉ store.keys) =
      (accepted host port policy store outcomes).map (entryOf host port) :=
    List.filter_eq_self.mpr fun k member => decide_eq_true (accepted_unknown member)
  rw [addAll_fresh, entries, fresh, eraseDups_map (entryOf_inj host port)]

variable {operator : Prompter} {keys : List PublicKey} {fs disk : FileSystem}

theorem persist_untouched
    (none_accepted : accepted host port policy store (run host port policy store operator keys).outcomes = [])
    (saved : ((run host port policy store operator keys).gate.persist fs).1 = .ok disk) : disk = fs := by
  rw [run_gate, taken_accepted, none_accepted] at saved
  simp only [persist, holding, List.map_nil, List.isEmpty_nil, Bool.or_true, if_true] at saved
  exact (Except.ok.inj saved).symm

theorem persist_lines (clean : store.pending = [])
    (some_accepted : accepted host port policy store (run host port policy store operator keys).outcomes ≠ [])
    (saved : ((run host port policy store operator keys).gate.persist fs).1 = .ok disk) :
    FileSystem.Appended fs disk store.path (Bytes.ofString (text
      ((accepted host port policy store (run host port policy store operator keys).outcomes).eraseDups.map
        (entryOf host port)))) := by
  rw [run_gate] at saved
  generalize (run host port policy store operator keys).outcomes = outcomes at saved some_accepted ⊢
  obtain ⟨key, member⟩ := List.exists_mem_of_ne_nil _ some_accepted
  have checks : policy.checking = true := (mem_accepted.mp member).1
  have some_taken : taken host port policy store outcomes ≠ [] := by
    rw [taken_accepted]
    simpa using some_accepted
  have some_lines : (accepted host port policy store outcomes).eraseDups.map (entryOf host port) ≠ [] :=
    List.ne_nil_of_mem (List.mem_map_of_mem (List.mem_eraseDups.mpr member))
  obtain ⟨left, stored⟩ := persist_saves (g := holding host port policy store (taken host port policy store outcomes))
    checks some_taken saved
  have grown : (store.plus ((accepted host port policy store outcomes).eraseDups.map (entryOf host port))).save fs =
      (store.addAll ((taken host port policy store outcomes).map HostKey.entry)).save fs := by rw [recorded_accepted]
  have written := (congrArg Prod.fst grown).trans stored
  exact (save_appends (by simp [plus, clean]) some_lines written).2

end Session

end Gate

namespace Client

open KnownHosts

variable {π : Type}

-- The first call, if it comes as far as to have saved: breaking the link may fail after that.
theorem first_saved {server : Server π} {s : Session} {a : Attempt π} (first : First server s a)
    (saved : (s.gate.persist a.before.files).1.isOk = true) : (s.gate.persist a.before.files).1 = .ok a.after.files := by
  cases first with
  | unsaved e failed outcome untouched =>
      rw [failed] at saved
      cases saved
  | refused why done answer outcome => exact done
  | closed done answer outcome => exact done

theorem accepted_keys_written (server : Server π) (id : SessionId) (host : String) (port : Nat) (policy : KeyPolicy)
    {store : KnownHosts} {fs : FileSystem} {path : String} (loaded : (load fs path).1 = .ok store)
    (operator : Prompter) (keys : List PublicKey) {o : Outside (State π)} {link : LinkId} {linked : Bool}
    (opened : o.lib.sessions[id]? = some ⟨link, (Gate.run host port policy store operator keys).gate, false, linked⟩)
    (saved : ((Gate.run host port policy store operator keys).gate.persist o.files).1.isOk = true) :
    ∃ written : List PublicKey,
      written = (Gate.accepted host port policy store (Gate.run host port policy store operator keys).outcomes).eraseDups ∧
      written.Nodup ∧
      (∀ key, key ∈ written ↔ policy.checking = true ∧ Gate.standing host port store key = .unknown ∧
        (key, .ok ()) ∈ (Gate.run host port policy store operator keys).outcomes) ∧
      (written = [] → (closeSession server id o).2.files = o.files) ∧
      (written ≠ [] → FileSystem.Appended o.files (closeSession server id o).2.files path
        (Bytes.ofString (text (written.map (Gate.entryOf host port))))) ∧
      (policy.checking = false → (closeSession server id o).2.files = o.files) := by
  obtain ⟨first, _⟩ := closeSession_first server opened rfl
  have stored := first_saved first saved
  obtain ⟨named, clean⟩ := load_clean loaded
  have untouched := fun nothing => Gate.persist_untouched nothing stored
  refine ⟨_, rfl, eraseDups_nodup _, ?_, ?_, ?_, ?_⟩
  · intro key
    rw [List.mem_eraseDups, Gate.mem_accepted]
  · intro nothing
    refine untouched (List.eq_nil_iff_forall_not_mem.mpr fun key member => ?_)
    rw [← List.mem_eraseDups, nothing] at member
    cases member
  · intro some_written
    rw [← named]
    refine Gate.persist_lines clean (fun nothing => some_written ?_) stored
    rw [nothing]
    rfl
  · intro off
    refine untouched (List.eq_nil_iff_forall_not_mem.mpr fun key member => ?_)
    rw [(Gate.mem_accepted.mp member).1] at off
    cases off

def roadKey : PublicKey := ⟨"ssh-rsa", [4, 5, 6]⟩

def doubted (store : KnownHosts) : Gate.Run :=
  Gate.run "web01" 22 ⟨true, false, false⟩ store ⟨[.ok "yes", .ok "no", .ok "y"], []⟩ [webKey, roadKey, webKey]

def doubting (store : KnownHosts) (fs : FileSystem) : Outside (State ScriptedServer.State) where
  lib := { State.initial webServer with sessions := [⟨0, (doubted store).gate, false, true⟩] }
  files := fs
  operator := ⟨[], []⟩
  log := []

theorem accepted_twice_written_once :
    ∃ store, (load (onDisk "db ssh-rsa BBBB\n") "known_hosts").1 = .ok store ∧
      (closeSession ScriptedServer.server 0 (doubting store (onDisk "db ssh-rsa BBBB\n"))).2.files.read "known_hosts" =
        .ok (Bytes.ofString "db ssh-rsa BBBB\nweb01 ssh-ed25519 AQID\n") := by
  have found : (onDisk "db ssh-rsa BBBB\n").readText "known_hosts" = .ok "db ssh-rsa BBBB\n" := by decide +kernel
  have loaded := load_text found
  refine ⟨_, loaded, ?_⟩
  generalize stored : (⟨"known_hosts", readKeys "db ssh-rsa BBBB\n", []⟩ : KnownHosts) = store at loaded
  have saved : ((doubted store).gate.persist (onDisk "db ssh-rsa BBBB\n")).1.isOk = true := by
    rw [← stored]
    decide +kernel
  obtain ⟨written, once, _, _, _, appended, _⟩ := accepted_keys_written ScriptedServer.server 0 "web01" 22
    ⟨true, false, false⟩ loaded ⟨[.ok "yes", .ok "no", .ok "y"], []⟩ [webKey, roadKey, webKey]
    (o := doubting store (onDisk "db ssh-rsa BBBB\n")) rfl saved
  have listed : written = [webKey] := by
    rw [once, ← stored]
    decide +kernel
  obtain ⟨place, _, now, same, _⟩ := appended (by simp [listed])
  have before : (onDisk "db ssh-rsa BBBB\n").read "known_hosts" = .ok (Bytes.ofString "db ssh-rsa BBBB\n") := by
    decide +kernel
  have kept : (doubting store (onDisk "db ssh-rsa BBBB\n")).files.contentAt place = Bytes.ofString "db ssh-rsa BBBB\n" :=
    same _ before
  rw [now, kept, listed]
  decide +kernel

end Client
end RemoteExec

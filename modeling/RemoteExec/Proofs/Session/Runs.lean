import RemoteExec.Proofs.Session.Record
import RemoteExec.Session.World

namespace RemoteExec

variable {σ : Type}

structure Consistent (cache : Cache) (l : Recorded σ) : Prop where
  sound : cache.Sound
  opened : ∀ seat handle, cache.sftp.get? seat = some handle → openedOn l.calls handle ≠ none

namespace Consistent

theorem grown {cache : Cache} {l : Recorded σ} (consistent : Consistent cache l) (state : σ) (more : List Call) :
    Consistent cache ⟨state, l.calls ++ more⟩ :=
  ⟨consistent.sound, fun seat handle registered =>
    openedOn_grown l.calls more handle (consistent.opened seat handle registered)⟩

theorem without {cache : Cache} {l : Recorded σ} (consistent : Consistent cache l) (seat : Seat) :
    Consistent (cache.without seat) l := by
  refine ⟨consistent.sound.without seat, ?_⟩
  intro other handle registered
  simp only [Cache.without, Registry.get_erase] at registered
  by_cases same : other = seat
  · simp [same] at registered
  · rw [if_neg same] at registered
    exact consistent.opened other handle registered

theorem entered {cache : Cache} {l : Recorded σ} (consistent : Consistent cache l) (seat : Seat) :
    Consistent { cache with sftp := (cache.sftp.enter seat).2 } l := by
  refine ⟨⟨consistent.sound.sessions, consistent.sound.sftp.enter seat⟩, ?_⟩
  intro other handle registered
  rw [consistent.sound.sftp.get_enter seat other] at registered
  exact consistent.opened other handle registered

theorem abandoned {cache : Cache} {l : Recorded σ} (consistent : Consistent cache l) (seat : Seat) (cell : Nat) :
    Consistent { cache with sftp := cache.sftp.abandon seat cell } l := by
  refine ⟨⟨consistent.sound.sessions, consistent.sound.sftp.abandon seat cell⟩, ?_⟩
  intro other handle registered
  rw [Registry.get_abandon cache.sftp seat other cell] at registered
  exact consistent.opened other handle registered

theorem filled {cache : Cache} {l : Recorded σ} (consistent : Consistent cache l) (state : σ) (cell : Nat)
    (session : SessionId) (handle : SftpId) (used : cell < cache.sftp.next) :
    Consistent { cache with sftp := cache.sftp.fill cell handle }
      ⟨state, l.calls ++ [.openSftp session (.ok handle)]⟩ := by
  refine ⟨⟨consistent.sound.sessions, consistent.sound.sftp.fill cell handle used⟩, ?_⟩
  intro seat shown registered
  rcases Registry.get_fill_cases cache.sftp seat cell handle shown registered with fresh | older
  · rw [fresh, opened_last]
    simp
  · exact openedOn_grown l.calls _ shown (consistent.opened seat shown older)

end Consistent

namespace Connection

variable {lib : Library σ} {c : Connection}

theorem calls_consistent (lib : Library σ) (cache : Cache) : lib.recorded.Keeps (Consistent cache) :=
  lib.recorded_keeps fun _ state more consistent => consistent.grown state more

theorem connect_consistent : Leads (Scene.Has Consistent) (c.connect lib.recorded) (Scene.Has Consistent) := by
  intro s consistent
  refine ⟨connect_sound consistent.sound, ?_⟩
  intro seat handle registered
  have opened : openedOn s.outside.lib.calls handle ≠ none := by
    rw [connect_sftp consistent.sound] at registered
    by_cases stale : Cache.Stale lib.recorded c.seat s.cache s.outside.lib
    · rw [Cache.swept_stale stale] at registered
      exact (consistent.without c.seat).opened seat handle registered
    · rw [Cache.swept_kept stale] at registered
      exact consistent.opened seat handle registered
  have grows : lib.recorded.Keeps fun l => openedOn l.calls handle ≠ none :=
    lib.recorded_keeps fun l _ more holds => openedOn_grown l.calls more handle holds
  exact connect_keeps grows c s opened

theorem ensureConnected_consistent :
    Leads (Scene.Has Consistent) (c.ensureConnected lib.recorded) (Scene.Has Consistent) := by
  intro s consistent
  by_cases own : OwnOpen lib.recorded s
  · obtain ⟨session, holds, isOpen⟩ := own
    rw [ensureConnected_own holds isOpen]
    exact consistent
  · rw [ensureConnected_connect own]
    exact connect_consistent s consistent

theorem connectSftp_consistent :
    Leads (Scene.Has Consistent) (c.connectSftp lib.recorded) (Scene.Has Consistent) := by
  intro s consistent
  cases known : s.cache.sftp.get? c.seat with
  | some handle =>
      rw [connectSftp_registered known]
      exact consistent
  | none =>
      have connected : Scene.Has Consistent (c.ensureConnected lib.recorded (entered c s)).2 :=
        ensureConnected_consistent (entered c s) (consistent.entered c.seat)
      have used : (s.cache.sftp.enter c.seat).1 < (c.ensureConnected lib.recorded (entered c s)).2.cache.sftp.next :=
        entered_cell_used consistent.sound
      rw [connectSftp_vacant consistent.sound known]
      cases ensured : c.ensureConnected lib.recorded (entered c s) with
      | mk outcome t =>
          rw [ensured] at connected used
          cases outcome with
          | error e => exact connected.abandoned c.seat _
          | ok session =>
              obtain ⟨opened, after, _, asked⟩ := lib.recorded_openSftp session t.outside
              simp only [asked]
              cases opened with
              | error e => exact (connected.grown after.lib _).abandoned c.seat _
              | ok handle => exact connected.filled after.lib _ session handle used

theorem evict_consistent : Leads (Scene.Has Consistent) (c.evict : Act (Recorded σ) Unit) (Scene.Has Consistent) :=
  fun _ consistent => consistent.without c.seat

theorem operation_consistent (operation : Operation) :
    Leads (Scene.Has Consistent) (operation.act lib.recorded c) (Scene.Has Consistent) := by
  have closes : Leads (Scene.Has Consistent) (c.close lib.recorded) (Scene.Has Consistent) :=
    close_leads (fun cache => (calls_consistent lib cache).closing) c evict_consistent
  cases operation with
  | connect => exact connect_consistent.keep fun _ => Act.pure_keeps _
  | ensureConnected => exact ensureConnected_consistent.keep fun _ => Act.pure_keeps _
  | connectSftp => exact connectSftp_consistent.keep fun _ => Act.pure_keeps _
  | exec command input sudoable =>
      refine Leads.keep ?_ fun _ => Act.pure_keeps _
      exact exec_leads (calls_consistent lib) (fun _ _ holds => holds) c ensureConnected_consistent command input sudoable
  | putFile source target protocol =>
      exact putFile_leads (calls_consistent lib) (fun _ _ holds => holds) c ensureConnected_consistent source target protocol
  | fetchFile source target protocol =>
      exact fetchFile_leads (calls_consistent lib) (fun _ _ holds => holds) c ensureConnected_consistent
        connectSftp_consistent source target protocol
  | close => exact closes
  | reset =>
      refine Leads.keep ?_ fun _ => Act.pure_keeps _
      exact closes.keep fun _ => (Act.hold_keeps _).keep fun _ => connect_consistent

end Connection

namespace World

variable {lib : Library σ}

theorem step_consistent (w : World (Recorded σ)) (happening : Happening σ) (consistent : Consistent w.cache w.lib) :
    Consistent (step lib w happening).cache (step lib w happening).lib := by
  cases happening with
  | act i c operation => exact Connection.operation_consistent operation (w.scene i) consistent
  | server change => exact ⟨consistent.sound, consistent.opened⟩

theorem run_consistent (happenings : List (Happening σ)) (w : World (Recorded σ))
    (consistent : Consistent w.cache w.lib) :
    Consistent (run lib happenings w).cache (run lib happenings w).lib := by
  induction happenings generalizing w with
  | nil => exact consistent
  | cons first rest ih => exact ih (step lib w first) (step_consistent w first consistent)

theorem run_take_succ (lib : Library σ) (happenings : List (Happening σ)) (start : World (Recorded σ)) (n : Nat)
    {happening : Happening σ} (next : happenings[n]? = some happening) :
    run lib (happenings.take (n + 1)) start = step lib (run lib (happenings.take n) start) happening := by
  simp only [run, List.take_add_one, next, Option.toList_some, List.foldl_append, List.foldl_cons, List.foldl_nil]

theorem run_always {P : World (Recorded σ) → Prop} {happenings : List (Happening σ)} {start : World (Recorded σ)}
    (base : P start) (kept : ∀ w, ∀ happening ∈ happenings, P w → P (step lib w happening)) (n : Nat) :
    P (run lib (happenings.take n) start) := by
  induction n with
  | zero => exact base
  | succ n ih =>
      cases next : happenings[n]? with
      | some happening =>
          rw [run_take_succ lib happenings start n next]
          exact kept _ happening (List.mem_of_getElem? next) ih
      | none =>
          rw [List.take_add_one, next]
          simpa using ih

-- What holds at first holds throughout a run exactly if nothing happens that breaks it.
theorem run_always_iff {I P : World (Recorded σ) → Prop} {breaks : World (Recorded σ) → Happening σ → Prop}
    {happenings : List (Happening σ)} {start : World (Recorded σ)}
    (always : ∀ n, I (run lib (happenings.take n) start)) (base : P start)
    (step_iff : ∀ w, ∀ happening ∈ happenings, I w → P w → (P (step lib w happening) ↔ ¬ breaks w happening)) :
    (∀ n, P (run lib (happenings.take n) start)) ↔
      ∀ n happening, happenings[n]? = some happening → ¬ breaks (run lib (happenings.take n) start) happening := by
  constructor
  · intro holds n happening next
    have after := holds (n + 1)
    rw [run_take_succ lib happenings start n next] at after
    exact (step_iff _ happening (List.mem_of_getElem? next) (always n) (holds n)).mp after
  · intro unbroken n
    induction n with
    | zero => exact base
    | succ n ih =>
        cases next : happenings[n]? with
        | some happening =>
            rw [run_take_succ lib happenings start n next]
            exact (step_iff _ happening (List.mem_of_getElem? next) (always n) ih).mpr (unbroken n happening next)
        | none =>
            rw [List.take_add_one, next]
            simpa using ih

theorem Fresh.consistent {w : World (Recorded σ)} (fresh : Fresh w) : Consistent w.cache w.lib := by
  rw [fresh.cache]
  exact ⟨Cache.empty_sound, fun seat handle registered => by simp [Cache.empty, Registry.empty, Registry.get?,
    Registry.cell?] at registered⟩

theorem Reached.consistent {w : World (Recorded σ)} (reached : Reached lib w) : Consistent w.cache w.lib := by
  obtain ⟨start, happenings, fresh, same⟩ := reached
  rw [same]
  exact run_consistent happenings start fresh.consistent

end World
end RemoteExec

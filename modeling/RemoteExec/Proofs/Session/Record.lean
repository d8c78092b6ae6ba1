import RemoteExec.Proofs.Session.Connecting
import RemoteExec.Proofs.Session.Frames
import RemoteExec.Session.Record

namespace RemoteExec

variable {σ : Type}

def Library.YieldsOpen (lib : Library σ) : Prop :=
  ∀ r o session after, lib.establish r o = (.ok session, after) → lib.isClosed after.lib session = false

def Library.SparesSession (lib : Library σ) : Prop :=
  ∀ session o handle after, lib.openSftp session o = (.ok handle, after) → lib.isClosed o.lib session = false →
    lib.isClosed after.lib session = false

def Library.unasked (lib : Library σ) : Library σ :=
  { lib with
    dial := fun _ => pure ()
    establish := fun _ => throw (.connection "not asked") }

-- A closed session stays closed, whatever the library is asked for: establishing opens none but the session that
-- it yields. And a session is closed when closing it went well.
structure Library.ClosesForGood (lib : Library σ) : Prop where
  stays : ∀ session, lib.unasked.Keeps fun l => lib.isClosed l session = true
  dialed : ∀ session r o, lib.isClosed o.lib session = true → lib.isClosed (lib.dial r o).2.lib session = true
  established : ∀ session r o, lib.isClosed o.lib session = true → (lib.establish r o).1 ≠ .ok session →
    lib.isClosed (lib.establish r o).2.lib session = true
  closes : ∀ session o after, lib.closeSession session o = (.ok (), after) → lib.isClosed after.lib session = true

def Library.CountsPieces (lib : Library σ) : Prop :=
  ∀ channel timeout limit o chunk after, lib.receive channel timeout limit o = (.ok (some chunk), after) → chunk ≠ [] →
    lib.pieces after.lib channel < lib.pieces o.lib channel

theorem openedOn_append (calls : List Call) (last : Call) (handle : SftpId) :
    openedOn (calls ++ [last]) handle = (last.opened? handle).or (openedOn calls handle) := by
  simp only [openedOn, List.reverse_append, List.reverse_cons, List.reverse_nil, List.nil_append, List.singleton_append,
    List.findSome?_cons]
  cases last.opened? handle with
  | none => rfl
  | some session => rfl

theorem openedOn_grown (calls more : List Call) (handle : SftpId) (opened : openedOn calls handle ≠ none) :
    openedOn (calls ++ more) handle ≠ none := by
  simp only [openedOn, List.reverse_append, List.findSome?_append, ne_eq, Option.or_eq_none_iff, not_and]
  exact fun _ => opened

theorem opened_last (calls : List Call) (session : SessionId) (handle : SftpId) :
    openedOn (calls ++ [.openSftp session (.ok handle)]) handle = some session := by
  simp [openedOn_append, Call.opened?]

theorem Library.recorded_establish (lib : Library σ) (r : Request) (o : Outside (Recorded σ)) :
    ∃ outcome after, lib.establish r (Recorded.plain o) = (outcome, after) ∧
      lib.recorded.establish r o = (outcome,
        ⟨⟨after.lib, o.lib.calls ++ [.establish r outcome]⟩, after.files, after.operator, after.log⟩) :=
  ⟨_, _, rfl, rfl⟩

theorem Library.recorded_openSftp (lib : Library σ) (session : SessionId) (o : Outside (Recorded σ)) :
    ∃ outcome after, lib.openSftp session (Recorded.plain o) = (outcome, after) ∧
      lib.recorded.openSftp session o = (outcome,
        ⟨⟨after.lib, o.lib.calls ++ [.openSftp session outcome]⟩, after.files, after.operator, after.log⟩) :=
  ⟨_, _, rfl, rfl⟩

theorem Library.recorded_newChannel (lib : Library σ) (session : SessionId) (o : Outside (Recorded σ)) :
    ∃ outcome after, lib.newChannel session (Recorded.plain o) = (outcome, after) ∧
      lib.recorded.newChannel session o = (outcome,
        ⟨⟨after.lib, o.lib.calls ++ [.newChannel session outcome]⟩, after.files, after.operator, after.log⟩) :=
  ⟨_, _, rfl, rfl⟩

theorem Library.recorded_closeChannel (lib : Library σ) (channel : ChannelId) (o : Outside (Recorded σ)) :
    ∃ outcome after, lib.closeChannel channel (Recorded.plain o) = (outcome, after) ∧
      lib.recorded.closeChannel channel o = (outcome,
        ⟨⟨after.lib, o.lib.calls ++ [.closeChannel channel outcome]⟩, after.files, after.operator, after.log⟩) :=
  ⟨_, _, rfl, rfl⟩

theorem Library.recorded_keeps (lib : Library σ) {Q : Recorded σ → Prop}
    (grows : ∀ l state more, Q l → Q ⟨state, l.calls ++ more⟩) : lib.recorded.Keeps Q := by
  constructor
  all_goals intros
  all_goals first
    | exact grows _ _ _ ‹_›
    | exact fun o holds => grows _ _ _ holds

end RemoteExec

import RemoteExec.Proofs.Session.Memory
import RemoteExec.Proofs.Session.Watching

namespace RemoteExec

variable {σ : Type}

namespace Connection

-- What the end of a started command makes of it. `before` is output that comes in front of both outputs, `seen`
-- the output that was watched.
structure Completes (lib : Library σ) (timeout : Duration) (channel : ChannelId) (seen before : Bytes) (o : Outside σ)
    (result : Except Failure CommandResult) : Prop where
  failed : ∀ failure after, lib.finish channel timeout o = (.error failure, after) → result = .error failure
  timedOut : ∀ after, lib.finish channel timeout o = (.ok none, after) → result = .error (.timeout seen.lossy)
  finished : ∀ exit after, lib.finish channel timeout o = (.ok (some exit), after) →
    ∃ code : Int, (exit.exitStatus = none → code = -1) ∧
      (∀ status, exit.exitStatus = some status → code = (min status 2147483647 : Nat)) ∧
      result = .ok ⟨code, before ++ exit.stdout, before ++ exit.stderr⟩

structure Outcome (lib : Library σ) (timeout : Duration) (channel : ChannelId) (e : Escalation) (o : Outside σ) (n : Nat)
    (result : Except Failure CommandResult) : Prop where
  failed : ∀ failure, reply lib timeout channel o n = .error failure → result = .error failure
  timedOut : reply lib timeout channel o n = .ok none →
    result = .error (.timeout (output lib timeout channel o n).lossy)
  unknownUser : reply lib timeout channel o n = .ok (some []) →
    Bytes.ofString "unknown user" <:+: output lib timeout channel o n →
    result = .error (.escalation ("user " ++ e.user ++ " does not exist"))
  closed : reply lib timeout channel o n = .ok (some []) →
    ¬ Bytes.ofString "unknown user" <:+: output lib timeout channel o n →
    Completes lib timeout channel (output lib timeout channel o n) (output lib timeout channel o n)
      (looked lib timeout channel o (n + 1)) result
  success : piece lib timeout channel o n ≠ [] → e.scan (output lib timeout channel o (n + 1)) = .success →
    Completes lib timeout channel (output lib timeout channel o (n + 1)) (output lib timeout channel o (n + 1))
      (looked lib timeout channel o (n + 1)) result
  noSecret : piece lib timeout channel o n ≠ [] → e.scan (output lib timeout channel o (n + 1)) = .passwordPrompt →
    e.secret = none → result = .error (.escalation "A password is required but none was supplied")
  unsent : piece lib timeout channel o n ≠ [] → e.scan (output lib timeout channel o (n + 1)) = .passwordPrompt →
    ∀ secret failure after, e.secret = some secret →
      lib.send channel (secret ++ [10]) (looked lib timeout channel o (n + 1)) = (.error failure, after) →
      result = .error failure
  answered : piece lib timeout channel o n ≠ [] → e.scan (output lib timeout channel o (n + 1)) = .passwordPrompt →
    ∀ secret after, e.secret = some secret →
      lib.send channel (secret ++ [10]) (looked lib timeout channel o (n + 1)) = (.ok (), after) →
      Completes lib timeout channel (output lib timeout channel o (n + 1)) [] after result

variable {lib : Library σ} {timeout : Duration} {channel : ChannelId} {e : Escalation} {o : Outside σ}

def afterWatch (lib : Library σ) (e : Escalation) (timeout : Duration) (channel : ChannelId)
    (watched : Watch × Bytes) : Op σ CommandResult := do
  let output ← answerWatch lib e channel watched
  match ← lib.finish channel timeout with
  | none => throw (.timeout watched.2.lossy)
  | some exit => return ⟨returnCode exit.exitStatus, output ++ exit.stdout, output ++ exit.stderr⟩

theorem returnCode_some (status : Nat) : returnCode (some status) = (min status 2147483647 : Nat) := by
  by_cases small : status ≤ 2147483647
  · rw [Nat.min_eq_left small]
    simp [returnCode, small]
  · rw [Nat.min_eq_right (by omega)]
    simp [returnCode, small]

theorem pieces_fall (counts : lib.CountsPieces) (n : Nat) (before : ∀ m, m < n → Continues lib timeout channel e o m) :
    n + lib.pieces (looked lib timeout channel o n).lib channel ≤ lib.pieces o.lib channel := by
  induction n with
  | zero => exact Nat.le_of_eq (Nat.zero_add _)
  | succ n ih =>
      have so_far := ih fun m bound => before m (Nat.lt_succ_of_lt bound)
      have continues := before n (Nat.lt_succ_self n)
      obtain ⟨after, answer⟩ := look_reply lib timeout channel o n
      rw [piece_reply continues.1, look] at answer
      have fewer := counts channel timeout readSize _ _ after answer continues.1
      change lib.pieces after.lib channel < lib.pieces (looked lib timeout channel o n).lib channel at fewer
      have told : (looked lib timeout channel o (n + 1)).lib = after.lib := by
        simp only [looked, look, answer]
        rfl
      rw [told]
      omega

theorem settles_exists (counts : lib.CountsPieces) (timeout : Duration) (channel : ChannelId) (e : Escalation)
    (o : Outside σ) : ∃ n, n ≤ lib.pieces o.lib channel ∧ Settles lib timeout channel e o n := by
  rcases watch_run lib timeout channel e o (lib.pieces o.lib channel + 1) with ⟨last, bound, settles, _⟩ | ⟨endless, _⟩
  · exact ⟨last, Nat.le_of_lt_succ bound, settles⟩
  · have fallen := pieces_fall counts (lib.pieces o.lib channel + 1) endless
    omega

theorem afterWatch_completes {watched : Watch × Bytes} {before : Bytes} {after : Outside σ}
    (answered : answerWatch lib e channel watched o = (.ok before, after)) :
    Completes lib timeout channel watched.2 before after (afterWatch lib e timeout channel watched o).1 := by
  have run : afterWatch lib e timeout channel watched o =
      match lib.finish channel timeout after with
      | (.error failure, t) => (.error failure, t)
      | (.ok none, t) => (.error (.timeout watched.2.lossy), t)
      | (.ok (some exit), t) =>
        (.ok ⟨returnCode exit.exitStatus, before ++ exit.stdout, before ++ exit.stderr⟩, t) := by
    simp only [afterWatch, run_bind, answered]
    cases lib.finish channel timeout after with
    | mk outcome t =>
        cases outcome with
        | error failure => rfl
        | ok exit => cases exit <;> rfl
  rw [run]
  refine ⟨?_, ?_, ?_⟩
  · intro failure t finished
    rw [finished]
  · intro t finished
    rw [finished]
  · intro exit t finished
    rw [finished]
    refine ⟨returnCode exit.exitStatus, ?_, ?_, rfl⟩
    · intro absent
      rw [absent]
      rfl
    · intro status given
      rw [given, returnCode_some]

theorem negotiate_afterWatch (lib : Library σ) (e : Escalation) (timeout : Duration) (channel : ChannelId)
    (command : String) :
    negotiate lib e timeout channel command = (do
      lib.start channel (Bytes.ofString command)
      let ready ← get
      let watched ← watch lib e timeout channel (lib.pieces ready.lib channel + 1) []
      afterWatch lib e timeout channel watched) := rfl

theorem negotiate_started {command : String} {ready : Outside σ} {n : Nat}
    (started : lib.start channel (Bytes.ofString command) o = (.ok (), ready))
    (settles : Settles lib timeout channel e ready n) (bounded : n ≤ lib.pieces ready.lib channel) :
    (negotiate lib e timeout channel command o).1 =
      match ending lib timeout channel e ready n with
      | .error failure => .error failure
      | .ok watched => (afterWatch lib e timeout channel watched (looked lib timeout channel ready (n + 1))).1 := by
  have watched := watch_settles settles (Nat.lt_succ_of_le bounded)
  rw [negotiate_afterWatch]
  simp only [run_bind, started, run_get, watched]
  cases ending lib timeout channel e ready n with
  | error failure => rfl
  | ok watched => rfl

theorem ending_success {n : Nat} (given : piece lib timeout channel o n ≠ [])
    (progress : e.scan (output lib timeout channel o (n + 1)) = .success) :
    ending lib timeout channel e o n = .ok (.success, output lib timeout channel o (n + 1)) := by
  have replied := piece_reply given
  have full : (piece lib timeout channel o n).isEmpty = false := by simpa using given
  simp [ending, replied, full, progress]

theorem ending_prompt {n : Nat} (given : piece lib timeout channel o n ≠ [])
    (progress : e.scan (output lib timeout channel o (n + 1)) = .passwordPrompt) :
    ending lib timeout channel e o n = .ok (.passwordPrompt, output lib timeout channel o (n + 1)) := by
  have replied := piece_reply given
  have full : (piece lib timeout channel o n).isEmpty = false := by simpa using given
  simp [ending, replied, full, progress]

theorem settled_outcome {command : String} {ready : Outside σ} {n : Nat}
    (started : lib.start channel (Bytes.ofString command) o = (.ok (), ready))
    (settles : Settles lib timeout channel e ready n) (bounded : n ≤ lib.pieces ready.lib channel) :
    Outcome lib timeout channel e ready n (negotiate lib e timeout channel command o).1 := by
  rw [negotiate_started started settles bounded]
  constructor
  case failed =>
    intro failure replied
    simp [ending, replied]
  case timedOut =>
    intro replied
    simp [ending, replied]
  case unknownUser =>
    intro replied unknown
    simp [ending, replied, (Bytes.contains_iff _ _).mpr unknown]
  case closed =>
    intro replied known
    have absent : Bytes.contains (Bytes.ofString "unknown user") (output lib timeout channel ready n) = false :=
      Bool.eq_false_iff.mpr fun found => known ((Bytes.contains_iff _ _).mp found)
    have ended : ending lib timeout channel e ready n = .ok (.closed, output lib timeout channel ready n) := by
      simp [ending, replied, absent]
    rw [ended]
    have answer : answerWatch lib e channel (.closed, output lib timeout channel ready n)
        (looked lib timeout channel ready (n + 1)) = (.ok _, looked lib timeout channel ready (n + 1)) := rfl
    exact afterWatch_completes answer
  case success =>
    intro given progress
    rw [ending_success given progress]
    have answer : answerWatch lib e channel (.success, output lib timeout channel ready (n + 1))
        (looked lib timeout channel ready (n + 1)) = (.ok _, looked lib timeout channel ready (n + 1)) := rfl
    exact afterWatch_completes answer
  case noSecret =>
    intro given progress lacking
    rw [ending_prompt given progress]
    simp [afterWatch, answerWatch, lacking]
  case unsent =>
    intro given progress secret failure after known sent
    rw [ending_prompt given progress]
    simp [afterWatch, answerWatch, known, sent, Except.map]
  case answered =>
    intro given progress secret after known sent
    rw [ending_prompt given progress]
    have answer : answerWatch lib e channel (.passwordPrompt, output lib timeout channel ready (n + 1))
        (looked lib timeout channel ready (n + 1)) = (.ok [], after) := by
      simp [answerWatch, known, sent]
    exact afterWatch_completes answer

theorem negotiate_outcome (lib : Library σ) (e : Escalation) (timeout : Duration) (channel : ChannelId)
    (command : String) (o : Outside σ) :
    (∀ failure after, lib.start channel (Bytes.ofString command) o = (.error failure, after) →
      (negotiate lib e timeout channel command o).1 = .error failure) ∧
    ∀ ready, lib.start channel (Bytes.ofString command) o = (.ok (), ready) →
      (lib.CountsPieces → ∃ n, n ≤ lib.pieces ready.lib channel ∧ Settles lib timeout channel e ready n) ∧
      ∀ n, Settles lib timeout channel e ready n → n ≤ lib.pieces ready.lib channel →
        Outcome lib timeout channel e ready n (negotiate lib e timeout channel command o).1 := by
  refine ⟨?_, ?_⟩
  · intro failure after refused
    simp [negotiate, refused]
  · intro ready started
    refine ⟨fun counts => settles_exists counts timeout channel e ready, ?_⟩
    intro n settles bounded
    exact settled_outcome started settles bounded

def becoming (user : String) (secret : Option Bytes) : Escalation where
  expectsPrompt := true
  isSuccess := fun line => (Bytes.ofString "BECOME-SUCCESS-").isPrefixOf line
  isPrompt := fun line => (Bytes.ofString "[sudo] password").isPrefixOf line
  secret := secret
  user := user

def playing (pieces : List String) (exit : ChannelExit) : Outside Memory.State where
  lib := { Memory.State.initial Memory.Settings.harmless [] with
    channels := [⟨{ Memory.Script.silent with chunks := pieces.map (.data <| Bytes.ofString ·), exit := exit },
      false, none, [], [], false⟩] }
  files := default
  operator := default
  log := []

def unknownUser : Outside Memory.State := playing ["sudo: unknown us", "er: nosuch\n"] ⟨none, [], []⟩

def prompting : Outside Memory.State := playing ["[sudo] pass", "word: "] ⟨some 4294967295, Bytes.ofString "root\n", []⟩

def underWay (o : Outside Memory.State) : Outside Memory.State := (Memory.mock.start 0 (Bytes.ofString "id") o).2

theorem negotiate_outcome_split :
    Memory.mock.CountsPieces ∧
    (Settles Memory.mock default 0 (becoming "nosuch" none) (underWay unknownUser) 2 ∧
      2 ≤ Memory.mock.pieces (underWay unknownUser).lib 0 ∧
      (negotiate Memory.mock (becoming "nosuch" none) default 0 "id" unknownUser).1 =
        .error (.escalation "user nosuch does not exist")) ∧
    (Settles Memory.mock default 0 (becoming "root" (some [112, 119])) (underWay prompting) 1 ∧
      1 ≤ Memory.mock.pieces (underWay prompting).lib 0 ∧
      (negotiate Memory.mock (becoming "root" (some [112, 119])) default 0 "id" prompting).1 =
        .ok ⟨2147483647, Bytes.ofString "root\n", []⟩) := by
  refine ⟨Memory.library_counts_pieces "mock" ⟨1, 0, 0⟩, ?_, ?_⟩
  · have settles : Settles Memory.mock default 0 (becoming "nosuch" none) (underWay unknownUser) 2 := by
      refine ⟨?_, fun continues => absurd continues.1 (by decide +kernel)⟩
      intro m bound
      rcases (show m = 0 ∨ m = 1 from by omega) with first | second
      · rw [first]
        exact ⟨by decide +kernel, by decide +kernel⟩
      · rw [second]
        exact ⟨by decide +kernel, by decide +kernel⟩
    have bounded : 2 ≤ Memory.mock.pieces (underWay unknownUser).lib 0 := by decide +kernel
    have outcome := ((negotiate_outcome Memory.mock (becoming "nosuch" none) default 0 "id" unknownUser).2 _ rfl).2 2
      settles bounded
    exact ⟨settles, bounded, outcome.unknownUser (by decide +kernel) (by decide +kernel)⟩
  · have settles : Settles Memory.mock default 0 (becoming "root" (some [112, 119])) (underWay prompting) 1 := by
      refine ⟨?_, fun continues => absurd continues.2 (by decide +kernel)⟩
      intro m bound
      rw [show m = 0 from by omega]
      exact ⟨by decide +kernel, by decide +kernel⟩
    have bounded : 1 ≤ Memory.mock.pieces (underWay prompting).lib 0 := by decide +kernel
    have outcome := ((negotiate_outcome Memory.mock (becoming "root" (some [112, 119])) default 0 "id" prompting).2 _ rfl).2 1
      settles bounded
    have completes := outcome.answered (by decide +kernel) (by decide +kernel) [112, 119] _ rfl
      (by with_unfolding_all rfl)
    obtain ⟨code, _, saturated, result⟩ := completes.finished ⟨some 4294967295, Bytes.ofString "root\n", []⟩ _
      (by with_unfolding_all rfl)
    rw [saturated 4294967295 rfl] at result
    exact ⟨settles, bounded, result⟩

end Connection
end RemoteExec

import RemoteExec.Proofs.Session.Forgetting
import RemoteExec.Proofs.Session.Negotiation

namespace RemoteExec

variable {σ : Type}

namespace Call

def sent? : Call → Option (ChannelId × Bytes)
  | .send channel data _ => some (channel, data)
  | _ => none

def isTalk : Call → Bool
  | .send _ _ _ => true
  | .receive _ _ => true
  | _ => false

end Call

def sends (calls : List Call) : List (ChannelId × Bytes) := calls.filterMap Call.sent?

def Mute (calls : List Call) : Prop := ∀ call ∈ calls, call.isTalk = false

def received (channel : ChannelId) (chunks : List Bytes) : List Call :=
  chunks.map fun chunk => .receive channel (.ok (some chunk))

theorem sends_append (calls more : List Call) : sends (calls ++ more) = sends calls ++ sends more :=
  List.filterMap_append

theorem sends_start (channel : ChannelId) (command : Bytes) (outcome : Except Failure Unit) (rest : List Call) :
    sends (.start channel command outcome :: rest) = sends rest := rfl

theorem sends_send (channel : ChannelId) (data : Bytes) (outcome : Except Failure Unit) (rest : List Call) :
    sends (.send channel data outcome :: rest) = (channel, data) :: sends rest := rfl

theorem sends_mute {calls : List Call} (quiet : Mute calls) : sends calls = [] := by
  refine List.filterMap_eq_nil_iff.mpr fun call member => ?_
  cases call with
  | send channel data outcome => exact absurd (quiet _ member) (by simp [Call.isTalk])
  | _ => rfl

theorem sends_received (channel : ChannelId) (chunks : List Bytes) : sends (received channel chunks) = [] := by
  simp [sends, received, Call.sent?]

theorem sends_receives (channel : ChannelId) (outcomes : List (Except Failure (Option Bytes))) :
    sends (outcomes.map (Call.receive channel)) = [] := by
  simp [sends, Call.sent?]

theorem Mute.append {calls more : List Call} (quiet : Mute calls) (silent : Mute more) : Mute (calls ++ more) := by
  intro call member
  rcases List.mem_append.mp member with older | newer
  · exact quiet call older
  · exact silent call newer

-- The library that neither sends nor receives, and in all else does as the recorded one.
def Library.muted (lib : Library σ) : Library (Recorded σ) :=
  { lib.recorded with
    send := fun _ _ => pure ()
    receive := fun _ _ _ => pure none }

theorem Library.muted_keeps (lib : Library σ) {Q : Recorded σ → Prop}
    (grows : ∀ l state more, Q l → Mute more → Q ⟨state, l.calls ++ more⟩) : lib.muted.Keeps Q := by
  constructor
  all_goals intros
  all_goals first
    | exact fun o holds => holds
    | exact fun o holds => grows _ _ _ holds (by simp [Mute, Call.isTalk])
    | exact grows _ _ _ ‹_› (by simp [Mute, Call.isTalk])

def Quiet (base : List Call) (l : Recorded σ) : Prop := ∃ made, l.calls = base ++ made ∧ Mute made

def Opened (base : List Call) (channel : ChannelId) (l : Recorded σ) : Prop :=
  ∃ made session, l.calls = base ++ made ∧ Mute made ∧ .newChannel session (.ok channel) ∈ made

-- What the record of a command shows if its secret went out. All that was received up to then, in these chunks, asks
-- for the secret.
def Discloses (c : Connection) (command : String) (made : List Call) : Prop :=
  ∃ e secret session channel before chunks outcome after,
    c.escalation = some e ∧ e.expectsPrompt = true ∧ e.secret = some secret ∧
    made = before ++ .start channel (Bytes.ofString command) (.ok ()) :: received channel chunks ++
      .send channel (secret ++ [10]) outcome :: after ∧
    .newChannel session (.ok channel) ∈ before ∧ Mute before ∧ Mute after ∧
    (∀ chunk ∈ chunks, chunk ≠ []) ∧ e.Asks chunks.flatten ∧
    sends made = [(channel, secret ++ [10])]

def Discreet (c : Connection) (command : String) (base : List Call) (l : Recorded σ) : Prop :=
  ∃ made, l.calls = base ++ made ∧ (sends made = [] ∨ Discloses c command made)

theorem Quiet.noted {base : List Call} {l : Recorded σ} (quiet : Quiet base l) (state : σ) {more : List Call}
    (silent : Mute more) : Quiet base ⟨state, l.calls ++ more⟩ := by
  obtain ⟨made, grown, still⟩ := quiet
  exact ⟨made ++ more, by rw [grown, List.append_assoc], still.append silent⟩

theorem Opened.noted {base : List Call} {channel : ChannelId} {l : Recorded σ} (opened : Opened base channel l)
    (state : σ) {more : List Call} (silent : Mute more) : Opened base channel ⟨state, l.calls ++ more⟩ := by
  obtain ⟨made, session, grown, still, member⟩ := opened
  exact ⟨made ++ more, session, by rw [grown, List.append_assoc], still.append silent, List.mem_append_left _ member⟩

theorem Discreet.noted {c : Connection} {command : String} {base : List Call} {l : Recorded σ}
    (discreet : Discreet c command base l) (state : σ) {more : List Call} (silent : Mute more) :
    Discreet c command base ⟨state, l.calls ++ more⟩ := by
  obtain ⟨made, grown, unsent | disclosed⟩ := discreet
  · refine ⟨made ++ more, by rw [grown, List.append_assoc], Or.inl ?_⟩
    rw [sends_append, unsent, sends_mute silent]
    rfl
  · obtain ⟨e, secret, session, channel, before, chunks, outcome, after, escalates, expects, known, shape, opened, quiet,
      still, full, asks, sent⟩ := disclosed
    refine ⟨made ++ more, by rw [grown, List.append_assoc], Or.inr ⟨e, secret, session, channel, before, chunks, outcome,
      after ++ more, escalates, expects, known, ?_, opened, quiet, still.append silent, full, asks, ?_⟩⟩
    · rw [shape]
      simp
    · rw [sends_append, sent, sends_mute silent]
      rfl

theorem Opened.discreet {c : Connection} {command : String} {base : List Call} {channel : ChannelId} {l : Recorded σ}
    (opened : Opened base channel l) : Discreet c command base l := by
  obtain ⟨made, session, grown, still, member⟩ := opened
  exact ⟨made, grown, Or.inl (sends_mute still)⟩

namespace Connection

variable {lib : Library σ} {timeout : Duration} {channel : ChannelId} {e : Escalation} {o : Outside (Recorded σ)}

theorem looked_calls (n : Nat) :
    (looked lib.recorded timeout channel o n).lib.calls =
      o.lib.calls ++ ((List.range n).map fun m => reply lib.recorded timeout channel o m).map (Call.receive channel) := by
  induction n with
  | zero => simp [looked]
  | succ n ih =>
      have noted : (look lib.recorded timeout channel (looked lib.recorded timeout channel o n)).2.lib.calls =
          (looked lib.recorded timeout channel o n).lib.calls ++ [.receive channel (reply lib.recorded timeout channel o n)] :=
        rfl
      have told : (looked lib.recorded timeout channel o (n + 1)).lib =
          (look lib.recorded timeout channel (looked lib.recorded timeout channel o n)).2.lib := by
        simp only [looked]
        split
        next after answer =>
          rw [answer]
          rfl
        next after answer =>
          rw [answer]
      rw [told, noted, ih, List.range_succ]
      simp

def chunks (lib : Library σ) (timeout : Duration) (channel : ChannelId) (o : Outside σ) (n : Nat) : List Bytes :=
  (List.range n).map fun m => piece lib timeout channel o m

theorem chunks_output (lib : Library σ) (timeout : Duration) (channel : ChannelId) (o : Outside σ) (n : Nat) :
    (chunks lib timeout channel o n).flatten = output lib timeout channel o n := by
  induction n with
  | zero => rfl
  | succ n ih =>
      rw [chunks, List.range_succ, List.map_append, List.flatten_append, ← chunks, ih]
      simp [output]

theorem looked_received {n : Nat} (given : ∀ m, m < n → piece lib.recorded timeout channel o m ≠ []) :
    (looked lib.recorded timeout channel o n).lib.calls =
      o.lib.calls ++ received channel (chunks lib.recorded timeout channel o n) := by
  rw [looked_calls, received, chunks, List.map_map, List.map_map]
  congr 1
  refine List.map_congr_left fun m member => ?_
  show Call.receive channel (reply lib.recorded timeout channel o m) = _
  rw [piece_reply (given m (List.mem_range.mp member))]
  rfl

theorem ending_asks {lib : Library σ} {o : Outside σ} {n : Nat} {seen : Bytes} (settles : Settles lib timeout channel e o n)
    (ended : ending lib timeout channel e o n = .ok (.passwordPrompt, seen)) :
    (∀ m, m < n + 1 → piece lib timeout channel o m ≠ []) ∧ e.Asks (output lib timeout channel o (n + 1)) := by
  have given : piece lib timeout channel o n ≠ [] := by
    intro empty
    simp only [ending] at ended
    cases replied : reply lib timeout channel o n with
    | error failure => simp [replied] at ended
    | ok chunk =>
        cases chunk with
        | none => simp [replied] at ended
        | some chunk =>
            have same : chunk = [] := by simpa [piece, replied] using empty
            rw [replied, same] at ended
            simp only [List.isEmpty_nil, if_true] at ended
            split at ended
            · cases ended
            · cases ended
  refine ⟨?_, ?_⟩
  · intro m bound
    by_cases last : m = n
    · rw [last]
      exact given
    · exact (settles.before m (by omega)).1
  · refine (e.scan_prompt_iff _).mp ?_
    cases progress : e.scan (output lib timeout channel o (n + 1)) with
    | passwordPrompt => rfl
    | waiting => exact absurd ⟨given, progress⟩ settles.now
    | success =>
        rw [ending_success given progress] at ended
        cases ended

theorem looked_unsent (lib : Library σ) (timeout : Duration) (channel : ChannelId) {base before : List Call}
    (unsent : sends before = []) (so_far : o.lib.calls = base ++ before) (n : Nat) :
    ∃ made, (looked lib.recorded timeout channel o n).lib.calls = base ++ made ∧ sends made = [] := by
  refine ⟨_, by rw [looked_calls, so_far, List.append_assoc], ?_⟩
  rw [sends_append, unsent, sends_receives]
  rfl

theorem afterWatch_finishes (timeout : Duration) {watched : Watch × Bytes} {before : Bytes} {t : Outside (Recorded σ)}
    (answered : answerWatch lib.recorded e channel watched o = (.ok before, t)) :
    ∃ exit, (afterWatch lib.recorded e timeout channel watched o).2.lib.calls =
      t.lib.calls ++ [.finish channel exit] := by
  refine ⟨(lib.recorded.finish channel timeout t).1, ?_⟩
  have noted : (lib.recorded.finish channel timeout t).2.lib.calls =
      t.lib.calls ++ [.finish channel (lib.recorded.finish channel timeout t).1] := rfl
  simp only [afterWatch, run_bind, answered]
  cases finished : lib.recorded.finish channel timeout t with
  | mk outcome after =>
      rw [finished] at noted
      cases outcome with
      | error failure => exact noted
      | ok exit =>
          cases exit with
          | none => exact noted
          | some exit => exact noted

theorem afterWatch_mute {ended : Watch} (unasked : ended ≠ .passwordPrompt) (seen : Bytes) :
    ∃ made, (afterWatch lib.recorded e timeout channel (ended, seen) o).2.lib.calls = o.lib.calls ++ made ∧
      Mute made := by
  have answered : answerWatch lib.recorded e channel (ended, seen) o = (.ok seen, o) := by
    cases ended with
    | passwordPrompt => exact absurd rfl unasked
    | success => rfl
    | closed => rfl
  obtain ⟨exit, grown⟩ := afterWatch_finishes timeout answered
  exact ⟨_, grown, by simp [Mute, Call.isTalk]⟩

theorem afterWatch_prompted (lib : Library σ) (e : Escalation) (timeout : Duration) (channel : ChannelId) (seen : Bytes)
    (o : Outside (Recorded σ)) :
    ∃ made, (afterWatch lib.recorded e timeout channel (.passwordPrompt, seen) o).2.lib.calls = o.lib.calls ++ made ∧
      (Mute made ∨ ∃ secret outcome after, e.secret = some secret ∧
        made = .send channel (secret ++ [10]) outcome :: after ∧ Mute after) := by
  cases known : e.secret with
  | none =>
      refine ⟨[], ?_, Or.inl (by simp [Mute])⟩
      simp [afterWatch, answerWatch, known]
  | some secret =>
      have noted : (lib.recorded.send channel (secret ++ [10]) o).2.lib.calls =
          o.lib.calls ++ [.send channel (secret ++ [10]) (lib.recorded.send channel (secret ++ [10]) o).1] := rfl
      cases sent : lib.recorded.send channel (secret ++ [10]) o with
      | mk outcome t =>
          rw [sent] at noted
          cases outcome with
          | error failure =>
              refine ⟨_, ?_, Or.inr ⟨secret, .error failure, [], rfl, rfl, by simp [Mute]⟩⟩
              simpa [afterWatch, answerWatch, known, sent, Except.map] using noted
          | ok done =>
              have answered : answerWatch lib.recorded e channel (.passwordPrompt, seen) o = (.ok [], t) := by
                simp [answerWatch, known, sent]
              obtain ⟨exit, grown⟩ := afterWatch_finishes timeout answered
              refine ⟨_, ?_, Or.inr ⟨secret, .ok done, [.finish channel exit], rfl, rfl, ?_⟩⟩
              · rw [grown, noted, List.append_assoc]
                rfl
              · simp [Mute, Call.isTalk]

theorem settled_calls {base : List Call} {n : Nat} {watched : Watch × Bytes} {command : Bytes}
    (noted : o.lib.calls = base ++ [.start channel command (.ok ())]) (settles : Settles lib.recorded timeout channel e o n)
    (ended : ending lib.recorded timeout channel e o n = .ok watched) :
    ∃ made, (afterWatch lib.recorded e timeout channel watched (looked lib.recorded timeout channel o (n + 1))).2.lib.calls =
        base ++ made ∧
      (sends made = [] ∨ ∃ secret chunks outcome after, e.secret = some secret ∧
        made = .start channel command (.ok ()) :: received channel chunks ++ .send channel (secret ++ [10]) outcome :: after ∧
        Mute after ∧ (∀ chunk ∈ chunks, chunk ≠ []) ∧ e.Asks chunks.flatten) := by
  obtain ⟨looks, so_far, unsent⟩ := looked_unsent lib timeout channel rfl noted (n + 1)
  obtain ⟨progress, seen⟩ := watched
  have unasked : ∀ made, Mute made → sends (looks ++ made) = [] := by
    intro made quiet
    rw [sends_append, unsent, sends_mute quiet]
    rfl
  by_cases prompted : progress = .passwordPrompt
  · rw [prompted] at ended ⊢
    obtain ⟨made, grown, quiet | ⟨secret, outcome, after, known, shape, still⟩⟩ :=
      afterWatch_prompted lib e timeout channel seen (looked lib.recorded timeout channel o (n + 1))
    · refine ⟨looks ++ made, ?_, Or.inl (unasked made quiet)⟩
      rw [grown, so_far, List.append_assoc]
    · obtain ⟨given, asks⟩ := ending_asks settles ended
      refine ⟨_, ?_, Or.inr ⟨secret, chunks lib.recorded timeout channel o (n + 1), outcome, after, known, rfl, still, ?_,
        by rwa [chunks_output]⟩⟩
      · rw [grown, looked_received given, noted, shape]
        simp
      · intro chunk member
        obtain ⟨m, bound, same⟩ := List.mem_map.mp member
        rw [← same]
        exact given m (List.mem_range.mp bound)
  · obtain ⟨made, grown, quiet⟩ := afterWatch_mute prompted seen
    refine ⟨looks ++ made, ?_, Or.inl (unasked made quiet)⟩
    rw [grown, so_far, List.append_assoc]

theorem negotiate_calls (lib : Library σ) (e : Escalation) (timeout : Duration) (channel : ChannelId) (command : String)
    (o : Outside (Recorded σ)) :
    ∃ made, (negotiate lib.recorded e timeout channel command o).2.lib.calls = o.lib.calls ++ made ∧
      (sends made = [] ∨ ∃ secret chunks outcome after, e.secret = some secret ∧
        made = .start channel (Bytes.ofString command) (.ok ()) :: received channel chunks ++
          .send channel (secret ++ [10]) outcome :: after ∧
        Mute after ∧ (∀ chunk ∈ chunks, chunk ≠ []) ∧ e.Asks chunks.flatten) := by
  have noted : (lib.recorded.start channel (Bytes.ofString command) o).2.lib.calls = o.lib.calls ++
      [.start channel (Bytes.ofString command) (lib.recorded.start channel (Bytes.ofString command) o).1] := rfl
  rw [negotiate_afterWatch]
  cases started : lib.recorded.start channel (Bytes.ofString command) o with
  | mk outcome ready =>
      rw [started] at noted
      cases outcome with
      | error failure =>
          refine ⟨[.start channel (Bytes.ofString command) (.error failure)], ?_, Or.inl rfl⟩
          simpa [started] using noted
      | ok done =>
          simp only [run_bind, started, run_get]
          rcases watch_run lib.recorded timeout channel e ready (lib.recorded.pieces ready.lib channel + 1) with
            ⟨last, _, settles, ran⟩ | ⟨_, ran⟩
          · rw [ran]
            cases ended : ending lib.recorded timeout channel e ready last with
            | error failure =>
                obtain ⟨made, grown, unsent⟩ := looked_unsent lib timeout channel rfl noted (last + 1)
                exact ⟨made, grown, Or.inl unsent⟩
            | ok watched => exact settled_calls noted settles ended
          · rw [ran]
            obtain ⟨made, grown, unsent⟩ :=
              looked_unsent lib timeout channel rfl noted (lib.recorded.pieces ready.lib channel + 1)
            exact ⟨made, grown, Or.inl unsent⟩

theorem negotiate_discreet {c : Connection} (escalates : c.escalation.filter (·.expectsPrompt) = some e)
    (base : List Call) (command : String) :
    Leads (Outside.Has (Opened base channel)) (negotiate lib.recorded e timeout channel command)
      (Outside.Has (Discreet c command base)) := by
  rintro ready ⟨before, session, so_far, quiet, member⟩
  obtain ⟨known, expects⟩ := Option.filter_eq_some_iff.mp escalates
  obtain ⟨made, grown, sent⟩ := negotiate_calls lib e timeout channel command ready
  refine ⟨before ++ made, by rw [← List.append_assoc, ← so_far]; exact grown, ?_⟩
  rcases sent with unsent | ⟨secret, chunks, outcome, after, kept, shape, still, full, asks⟩
  · refine Or.inl ?_
    rw [sends_append, sends_mute quiet, unsent]
    rfl
  · refine Or.inr ⟨e, secret, session, channel, before, chunks, outcome, after, known, expects, kept, ?_, member, quiet, still,
      full, asks, ?_⟩
    · rw [shape]
      simp
    · rw [shape, sends_append, sends_mute quiet, List.cons_append, sends_start, sends_append, sends_received, sends_send,
        sends_mute still]
      rfl

theorem runOn_discreet (lib : Library σ) (c : Connection) (base : List Call) (channel : ChannelId) (command : String)
    (sudoable : Bool) :
    Leads (Outside.Has (Opened base channel)) (c.runOn lib.recorded channel command sudoable)
      (Outside.Has (Discreet c command base)) := by
  have enough : ∀ o, Outside.Has (Opened base channel) o → Outside.Has (Discreet c command base) (σ := Recorded σ) o :=
    fun o opened => opened.discreet
  unfold runOn
  extract_lets rest
  have rest_discreet : Leads (Outside.Has (Opened base channel)) (rest ()) (Outside.Has (Discreet c command base)) := by
    refine Leads.bind (Op.tell_keeps _ _) (fun _ => ?_) enough
    cases escalates : c.escalation.filter (·.expectsPrompt) with
    | some e => exact negotiate_discreet escalates base command
    | none =>
        intro o opened
        exact (opened.noted _ (by simp [Mute, Call.isTalk])).discreet
  by_cases asked : (c.options.pty && sudoable) = true
  · rw [if_pos asked]
    refine Leads.bind (R := Outside.Has (Opened base channel)) (fun o opened => ?_) (fun _ => rest_discreet) enough
    exact opened.noted _ (by simp [Mute, Call.isTalk])
  · rw [if_neg asked]
    exact rest_discreet

theorem openChannel_opened {c : Connection} {command : String} {base : List Call} (session : SessionId)
    {f : ChannelId → Act (Recorded σ) CommandResult}
    (rest : ∀ channel, Leads (Scene.Has fun _ => Opened base channel) (f channel)
      (Scene.Has fun _ => Discreet c command base)) :
    Leads (Scene.Has fun _ => Quiet base) (openChannel lib.recorded session >>= f)
      (Scene.Has fun _ => Discreet c command base) := by
  intro s quiet
  have noted : (lib.recorded.newChannel session s.outside).2.lib.calls = s.outside.lib.calls ++
      [.newChannel session (lib.recorded.newChannel session s.outside).1] := rfl
  obtain ⟨made, grown, still⟩ := quiet
  rw [grown, List.append_assoc] at noted
  simp only [openChannel, run_bind, Act.run_attempt, Act.run_ofOp]
  cases asked : lib.recorded.newChannel session s.outside with
  | mk outcome t =>
      rw [asked] at noted
      have silent : Mute (made ++ [.newChannel session outcome]) := still.append (by simp [Mute, Call.isTalk])
      cases outcome with
      | error e => exact ⟨_, noted, Or.inl (sends_mute silent)⟩
      | ok channel => exact rest channel _ ⟨_, session, noted, silent, by simp⟩

theorem exec_discreet (lib : Library σ) (c : Connection) (command : String) (input : Option Bytes) (sudoable : Bool)
    (base : List Call) :
    Leads (Scene.Has fun _ => Quiet base) (c.exec lib.recorded command input sudoable)
      (Scene.Has fun _ => Discreet c command base) := by
  have enough : ∀ s : Scene (Recorded σ), Scene.Has (fun _ => Quiet base) s → Scene.Has (fun _ => Discreet c command base) s := by
    rintro s ⟨made, grown, still⟩
    exact ⟨made, grown, Or.inl (sends_mute still)⟩
  have calls : lib.muted.Keeps (Discreet c command base) := lib.muted_keeps fun _ state _ discreet => discreet.noted state
  unfold exec
  by_cases given : input.getD [] ≠ []
  · rw [if_pos given]
    exact enough
  · rw [if_neg given]
    have ensured : Leads (Scene.Has fun _ => Quiet base) (c.ensureConnected lib.recorded) (Scene.Has fun _ => Quiet base) :=
      ensureConnected_keeps (lib.muted_keeps fun _ state _ quiet => quiet.noted state) c
    refine Leads.bind ensured (fun session => openChannel_opened session fun channel => ?_) enough
    have ran : Leads (Scene.Has fun _ => Opened base channel)
        (Act.attempt (Act.ofOp (c.runOn lib.recorded channel command sudoable)))
        (Scene.Has fun _ => Discreet c command base) :=
      fun s opened => runOn_discreet lib c base channel command sudoable s.outside opened
    refine Leads.bind ran (fun outcome => ?_) fun _ holds => holds
    refine Leads.keep (keepChannel_keeps (fun _ => calls) channel) fun _ => ?_
    cases outcome with
    | error e => exact Act.throw_keeps e
    | ok result => exact Leads.keep (Act.tell_keeps _ _) fun _ => Act.pure_keeps result

theorem exec_sends_when_asked (lib : Library σ) (c : Connection) (command : String) (input : Option Bytes)
    (sudoable : Bool) (s : Scene (Recorded σ)) :
    c.exec lib command input sudoable (Recorded.scene s) =
      ((c.exec lib.recorded command input sudoable s).1, Recorded.scene (c.exec lib.recorded command input sudoable s).2) ∧
    ∃ made, (c.exec lib.recorded command input sudoable s).2.outside.lib.calls = s.outside.lib.calls ++ made ∧
      (sends made = [] ∨ Discloses c command made) := by
  refine ⟨exec_mirrors lib c command input sudoable s, ?_⟩
  exact exec_discreet lib c command input sudoable s.outside.lib.calls s ⟨[], by simp, by simp [Mute]⟩

def prompted (pieces : List String) : Scene (Recorded Memory.State) where
  outside :=
    { lib :=
        { state := Memory.State.initial { Memory.Settings.harmless with
            script := { Memory.Script.silent with chunks := pieces.map (.data <| Bytes.ofString ·) } } []
          calls := [] }
      files := default
      operator := default
      log := [] }
  cache := Cache.empty
  held := Held.nothing

def webAsRoot : Connection := { Memory.web with escalation := some (becoming "root" (some [112, 119])) }

example : sends (webAsRoot.exec Memory.mock.recorded "id" none true
    (prompted ["[sudo] pass", "word: "])).2.outside.lib.calls = [(0, [112, 119, 10])] := by decide +kernel

example : sends (webAsRoot.exec Memory.mock.recorded "id" none true
    (prompted ["BECOME-SUCCESS-x\n[sudo] pass", "word: "])).2.outside.lib.calls = [] := by decide +kernel

end Connection
end RemoteExec

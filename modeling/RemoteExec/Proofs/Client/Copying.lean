import RemoteExec.Client.Files
import RemoteExec.Proofs.Session.Steps
import RemoteExec.Proofs.Text.ShellWords
import RemoteExec.ScriptedServer.Basic

namespace RemoteExec

open Text.ShellWords

namespace Scp

variable {π α : Type} {P : π → Prop} {far : FarEnd π}

def FarEnd.Stays (far : FarEnd π) (P : π → Prop) : Prop := ∀ p b, P p → P (far.answer p b).2

def OfPeer (P : π → Prop) (s : Wire π × FileSystem) : Prop := P s.1.peer

namespace Talk

theorem pure_stays (x : α) : Leads (OfPeer P) (pure x : Talk π α) (OfPeer P) := Leads.pure x fun _ before => before

theorem throw_stays (e : IoError) : Leads (OfPeer P) (throw e : Talk π α) (OfPeer P) := Leads.throw e fun _ before => before

theorem write_stays (stays : far.Stays P) (b : Bytes) : Leads (OfPeer P) (write far b) (OfPeer P) :=
  fun s before => stays s.1.peer b before

theorem take_stays (n : Nat) : Leads (OfPeer P) (take n) (OfPeer P) := fun _ before => before

theorem byte_stays : Leads (OfPeer P) (byte (π := π)) (OfPeer P) := by
  rintro ⟨⟨incoming, peer⟩, fs⟩ before
  cases incoming with
  | nil => exact before
  | cons b rest => exact before

theorem line_stays (start : String) : Leads (OfPeer P) (line (π := π) start) (OfPeer P) := by
  have bytes : Leads (OfPeer P) (lineBytes (π := π)) (OfPeer P) := fun _ before => before
  refine bytes.keep fun read => ?_
  dsimp only
  split
  · exact throw_stays _
  · exact pure_stays _
  · exact throw_stays _

theorem files_stays : Leads (OfPeer P) (files (π := π)) (OfPeer P) := fun _ before => before

theorem setFiles_stays (fs : FileSystem) : Leads (OfPeer P) (setFiles (π := π) fs) (OfPeer P) := fun _ before => before

theorem ofExcept_stays (e : Except IoError α) : Leads (OfPeer P) (ofExcept e) (OfPeer P) := by
  cases e with
  | ok a => exact pure_stays a
  | error e => exact throw_stays e

end Talk

theorem refusal_stays : Leads (OfPeer P) (refusal (π := π) (α := α)) (OfPeer P) :=
  (Talk.line_stays "").keep fun _ => Talk.throw_stays _

theorem acknowledgement_stays : Leads (OfPeer P) (acknowledgement (π := π)) (OfPeer P) := by
  refine Talk.byte_stays.keep fun b => ?_
  split
  · exact Talk.pure_stays ()
  · split
    · exact refusal_stays
    · exact Talk.throw_stays _

theorem confirm_stays (stays : far.Stays P) : Leads (OfPeer P) (confirm far) (OfPeer P) := Talk.write_stays stays [0]

theorem send_stays (stays : far.Stays P) (source remote : String) :
    Leads (OfPeer P) (send far source remote) (OfPeer P) := by
  refine Talk.files_stays.keep fun fs => (Talk.ofExcept_stays _).keep fun (mode, size) => ?_
  refine acknowledgement_stays.keep fun _ => (Talk.write_stays stays _).keep fun _ => ?_
  refine acknowledgement_stays.keep fun _ => (Talk.ofExcept_stays _).keep fun content => ?_
  exact (Talk.write_stays stays content).keep fun _ => (confirm_stays stays).keep fun _ => acknowledgement_stays

theorem header_stays (stays : far.Stays P) (fuel : Nat) : Leads (OfPeer P) (header far fuel) (OfPeer P) := by
  induction fuel with
  | zero => exact Talk.throw_stays _
  | succ fuel ih =>
      refine Talk.byte_stays.keep fun b => ?_
      split
      · exact refusal_stays
      · split
        · exact (Talk.line_stays "").keep fun _ => (confirm_stays stays).keep fun _ => ih
        · exact Talk.line_stays _

theorem receive_stays (stays : far.Stays P) (target : String) : Leads (OfPeer P) (receive far target) (OfPeer P) := by
  refine (confirm_stays stays).keep fun _ => (header_stays stays _).keep fun read => ?_
  refine (Talk.ofExcept_stays _).keep fun size => (confirm_stays stays).keep fun _ => ?_
  refine Talk.files_stays.keep fun fs => (Talk.ofExcept_stays _).keep fun emptied => ?_
  refine (Talk.setFiles_stays emptied).keep fun _ => (Talk.take_stays size).keep fun content => ?_
  refine (Talk.ofExcept_stays _).keep fun written => (Talk.setFiles_stays written).keep fun _ => ?_
  split
  · exact Talk.throw_stays _
  · exact acknowledgement_stays.keep fun _ => confirm_stays stays

end Scp

namespace Client

variable {π α : Type}

-- What the server has been told to run, on which line, can be read off its state: only a command adds to it.
structure Records (server : Server π) (ran : π → List (Line × Bytes)) : Prop where
  run : ∀ line command p, ran (server.run line command p).2 = ran p ++ [(line, command)]
  input : ∀ line b p, ran (server.input line b p).2 = ran p

structure Heard (π : Type) where
  state : π
  commands : List (Line × Bytes)

def Heard.under (act : StateM π α) : StateM (Heard π) α := fun n => ((act n.state).1, { n with state := (act n.state).2 })

open Heard in
def heard (server : Server π) : Server (Heard π) where
  connect := fun target timeout => under (server.connect target timeout)
  hostKeys := fun n => server.hostKeys n.state
  authenticate := fun link request => under (server.authenticate link request)
  openChannel := fun link => under (server.openChannel link)
  requestPty := fun line => under (server.requestPty line)
  run := fun line command n =>
    ((server.run line command n.state).1, ⟨(server.run line command n.state).2, n.commands ++ [(line, command)]⟩)
  input := fun line data => under (server.input line data)
  closeChannel := fun line => under (server.closeChannel line)
  startFiles := fun line => under (server.startFiles line)
  createFile := fun path => under (server.createFile path)
  writeFile := fun path content => under (server.writeFile path content)
  readFile := fun n path => server.readFile n.state path
  unsent := fun n line => server.unsent n.state line
  disconnect := fun link => under (server.disconnect link)

theorem heard_records (server : Server π) : Records (heard server) Heard.commands := ⟨fun _ _ _ => rfl, fun _ _ _ => rfl⟩

def copyLine (flag path : String) : String := "scp " ++ flag ++ " '" ++ path.shellEscaped ++ "'"

variable {server : Server π} {ran : π → List (Line × Bytes)} {o : Outside (State π)} {id : ScpId} {h : TransferHandle}

theorem talk_ends (found : o.lib.transferHandles[id]? = some h) (fresh : h.used = false) (flag path : String)
    (act : Scp.FarEnd (Stream π) → Scp.Talk (Stream π) Unit) {messages : List Message} {p : π}
    (answer : server.run h.line (Bytes.ofString (copyLine flag path)) o.lib.server = (messages, p)) :
    ∃ (bound : Nat) (incoming : Bytes) (ended : Bool),
      (talk server id flag path act o).2.lib.server =
        (act (farEnd server h.line bound) (⟨incoming, ⟨p, ended⟩⟩, o.files)).2.1.peer.server := by
  have told : ∀ (event : Event) (q : Outside (State π)), tellIo event q = (.ok (), q.tell [event]) := fun _ _ => rfl
  have command : "scp " ++ flag ++ " '" ++ path.shellEscaped ++ "'" = copyLine flag path := rfl
  refine ⟨(Stream.take false messages).1.length + server.unsent p h.line, (Stream.take false messages).1,
    (Stream.take false messages).2, ?_⟩
  simp only [talk, run_bind, run_get, found, fresh, Bool.false_eq_true, if_false, run_modify, told, command, Outside.tell,
    answer, ExceptT.run, StateT.run]
  cases act (farEnd server h.line ((Stream.take false messages).1.length + server.unsent p h.line))
      (⟨(Stream.take false messages).1, ⟨p, (Stream.take false messages).2⟩⟩, o.files) with
  | mk outcome left => cases outcome <;> rfl

theorem talk_runs (records : Records server ran) (found : o.lib.transferHandles[id]? = some h) (fresh : h.used = false)
    (flag path : String) {act : Scp.FarEnd (Stream π) → Scp.Talk (Stream π) Unit}
    (stays : ∀ far (P : Stream π → Prop), far.Stays P → Leads (Scp.OfPeer P) (act far) (Scp.OfPeer P)) :
    ran (talk server id flag path act o).2.lib.server =
      ran o.lib.server ++ [(h.line, Bytes.ofString (copyLine flag path))] := by
  have recorded := records.run h.line (Bytes.ofString (copyLine flag path)) o.lib.server
  cases answer : server.run h.line (Bytes.ofString (copyLine flag path)) o.lib.server with
  | mk messages p =>
      rw [answer] at recorded
      obtain ⟨bound, incoming, ended, last⟩ := talk_ends found fresh flag path act answer
      have input : (farEnd server h.line bound).Stays fun s =>
          ran s.server = ran o.lib.server ++ [(h.line, Bytes.ofString (copyLine flag path))] :=
        fun s b before => (records.input h.line b s.server).trans before
      rw [last]
      exact stays _ _ input (⟨incoming, ⟨p, ended⟩⟩, o.files) recorded

theorem copyLine_words {flag : String} (plain : Plain flag.toList) (path : String) :
    (copyLine flag path).shellWords? = some ["scp", flag, path] := by
  have scp : Plain "scp".toList := by decide
  have spaced : Spaced ((["scp", flag] ++ ["'" ++ path.shellEscaped ++ "'"]).map String.toList)
      (copyLine flag path).toList := by
    have whole : copyLine flag path = "scp " ++ flag ++ " '" ++ path.shellEscaped ++ "'" := rfl
    have text : (copyLine flag path).toList =
        [' '].intercalate ((["scp", flag] ++ ["'" ++ path.shellEscaped ++ "'"]).map String.toList) := by
      rw [whole]
      simp [List.intercalate_cons_cons]
    rw [text]
    exact Spaced.intercalate _
  have plain_words : ∀ w ∈ ["scp", flag] ++ [], Plain w.toList :=
    List.forall_mem_cons.mpr ⟨scp, List.forall_mem_singleton.mpr plain⟩
  exact shellWords_quoted plain_words spaced

theorem copies_name_path (server : Server π) (ran : π → List (Line × Bytes)) (records : Records server ran) :
    (∀ (s line : String) (before after : List String), (∀ w ∈ before ++ after, Plain w.toList) →
      Spaced ((before ++ ("'" ++ s.shellEscaped ++ "'") :: after).map String.toList) line.toList →
      line.shellWords? = some (before ++ s :: after)) ∧
    ∀ (o : Outside (State π)) (id : ScpId) (h : TransferHandle) (source target : String),
      o.lib.transferHandles[id]? = some h → h.used = false →
      (∃ line, ran (sendFile server id source target o).2.lib.server =
          ran o.lib.server ++ [(h.line, Bytes.ofString line)] ∧
        line.shellWords? = some ["scp", "-t", target]) ∧
      ∃ line, ran (receiveFile server id source target o).2.lib.server =
          ran o.lib.server ++ [(h.line, Bytes.ofString line)] ∧
        line.shellWords? = some ["scp", "-f", source] := by
  refine ⟨fun s line before after plain spaced => shellWords_quoted plain spaced, ?_⟩
  intro o id h source target found fresh
  refine ⟨⟨copyLine "-t" target, ?_, copyLine_words (by decide) target⟩, copyLine "-f" source, ?_,
    copyLine_words (by decide) source⟩
  · exact talk_runs records found fresh "-t" target fun _ _ stays => Scp.send_stays stays source target
  · exact talk_runs records found fresh "-f" source fun _ _ stays => Scp.receive_stays stays target

def awaitingCopy : Outside (State (Heard ScriptedServer.State)) where
  lib := { State.initial ⟨.initial ⟨[], none, [], none, [], [], []⟩ ⟨[]⟩ [], []⟩ with transferHandles := [⟨⟨0, 2⟩, false⟩] }
  files := FileSystem.empty
  operator := ⟨[], []⟩
  log := []

theorem copies_name_odd_path :
    "cp  '#'\"'\"' \\' -r\n".shellWords? = some ["cp", "#' \\", "-r"] ∧
      (∃ line, (sendFile (heard ScriptedServer.server) 0 "motd" "it's a #\\" awaitingCopy).2.lib.server.commands =
          [(⟨0, 2⟩, Bytes.ofString line)] ∧ line.shellWords? = some ["scp", "-t", "it's a #\\"]) ∧
      ∃ line, (receiveFile (heard ScriptedServer.server) 0 "" "motd" awaitingCopy).2.lib.server.commands =
          [(⟨0, 2⟩, Bytes.ofString line)] ∧ line.shellWords? = some ["scp", "-f", ""] := by
  obtain ⟨quoted, copies⟩ := copies_name_path (heard ScriptedServer.server) Heard.commands (heard_records _)
  have blank : isSeparator ' ' = true := rfl
  have spaced : Spaced (["cp", "'" ++ "#' \\".shellEscaped ++ "'", "-r"].map String.toList)
      "cp  '#'\"'\"' \\' -r\n".toList :=
    .part "cp".toList blank (.gap blank (.part "'#'\"'\"' \\'".toList blank (.part "-r".toList rfl .empty)))
  refine ⟨quoted "#' \\" _ ["cp"] ["-r"] (by decide) spaced, ?_, ?_⟩
  · exact (copies awaitingCopy 0 ⟨⟨0, 2⟩, false⟩ "motd" "it's a #\\" rfl rfl).1
  · exact (copies awaitingCopy 0 ⟨⟨0, 2⟩, false⟩ "" "motd" rfl rfl).2

end Client
end RemoteExec

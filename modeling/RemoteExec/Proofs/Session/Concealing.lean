import Mathlib.Data.List.Forall2
import RemoteExec.Escalation.Sudo
import RemoteExec.Proofs.Session.Blinding
import RemoteExec.Proofs.Session.Forgetting

namespace RemoteExec

variable {σ : Type} {hidden : Place → Prop} {alike : σ → σ → Prop} {lib : Library σ}

structure World.Alike (hidden : Place → Prop) (alike : σ → σ → Prop) (w v : World σ) : Prop where
  lib : alike w.lib v.lib
  files : w.files.Alike hidden v.files
  log : w.log = v.log
  cache : w.cache = v.cache
  members : w.members = v.members

-- The same operation of a connection with the same options but for the secrets, or changes at the server that are not
-- told apart.
inductive Happening.Alike (alike : σ → σ → Prop) : Happening σ → Happening σ → Prop where
  | act (i : Nat) (operation : Operation) {c d : Connection} (connections : c.Alike Blur.all d) :
    Alike alike (.act i c operation) (.act i d operation)
  | server {change other : σ → σ} (kept : ∀ s t, alike s t → alike (change s) (other t)) :
    Alike alike (.server change) (.server other)

theorem Sudo.escalation_alike (user nonce : String) {password other : Option String}
    (left : (sanitizePassword password).isSome = (sanitizePassword other).isSome) :
    (Sudo.make user password nonce).escalation.Alike Blur.all (Sudo.make user other nonce).escalation := by
  have secrets : Option.Rel (fun _ _ => True) ((sanitizePassword password).map Bytes.ofString)
      ((sanitizePassword other).map Bytes.ofString) := by
    generalize sanitizePassword password = x at left ⊢
    generalize sanitizePassword other = y at left ⊢
    cases x with
    | none =>
        cases y with
        | none => exact .none
        | some second => cases left
    | some first =>
        cases y with
        | none => cases left
        | some second => exact .some trivial
  have replaced : (Sudo.make user other nonce).escalation = { (Sudo.make user password nonce).escalation with
      secret := (sanitizePassword other).map Bytes.ofString } := by
    simp only [Sudo.escalation, Sudo.make, left]
    rfl
  rw [replaced]
  exact .mk _ secrets

namespace World

def reply? (lib : Library σ) (w : World σ) : Happening σ → Option (Except Failure Reply)
  | .act i c operation => some (act i (operation.answer lib c) w).1
  | .server _ => none

-- After each happening, what came of it and the whole log.
def seen (lib : Library σ) : List (Happening σ) → World σ → List (Option (Except Failure Reply) × List Event)
  | [], _ => []
  | first :: rest, w =>
    (reply? lib w first, (plainStep lib w first).log) :: seen lib rest (plainStep lib w first)

theorem Alike.scene {w v : World σ} (worlds : w.Alike hidden alike v) (i : Nat) :
    Scene.Paired (Outside.Alike hidden alike) (w.scene i) (v.scene i) := by
  refine ⟨⟨worlds.lib, worlds.files, ?_, worlds.log⟩, worlds.cache, ?_⟩
  · simp only [World.scene, worlds.members]
  · simp only [World.scene, worlds.members]

theorem Alike.withScene {w v : World σ} (worlds : w.Alike hidden alike v) (i : Nat) {s t : Scene σ}
    (scenes : Scene.Paired (Outside.Alike hidden alike) s t) : (w.withScene i s).Alike hidden alike (v.withScene i t) := by
  refine ⟨scenes.outside.lib, scenes.outside.files, scenes.outside.log, scenes.cache, ?_⟩
  simp only [World.withScene, worlds.members, scenes.held, scenes.outside.operator]

theorem reply_alike (blind : lib.Blind hidden alike) {w v : World σ} (worlds : w.Alike hidden alike v)
    {first other : Happening σ} (happenings : Happening.Alike alike first other) :
    reply? lib w first = reply? lib v other := by
  cases happenings with
  | server kept => rfl
  | act i operation connections =>
      have answers := operation.answer_pairs (Outside.Alike.surrounds hidden alike) blind connections
      exact congrArg some (answers _ _ (worlds.scene i)).1.eq

theorem step_alike (blind : lib.Blind hidden alike) {w v : World σ} (worlds : w.Alike hidden alike v)
    {first other : Happening σ} (happenings : Happening.Alike alike first other) :
    (plainStep lib w first).Alike hidden alike (plainStep lib v other) := by
  cases happenings with
  | server kept => exact ⟨kept _ _ worlds.lib, worlds.files, worlds.log, worlds.cache, worlds.members⟩
  | act i operation connections =>
      have acts := operation.act_pairs (Outside.Alike.surrounds hidden alike) blind connections
      exact worlds.withScene i (acts _ _ (worlds.scene i)).2

-- Induction on the happenings: each one is answered and logged the same, and leaves the worlds alike.
theorem seen_without_secrets (blind : lib.Blind hidden alike) {w v : World σ} (worlds : w.Alike hidden alike v)
    {happenings others : List (Happening σ)} (same : List.Forall₂ (Happening.Alike alike) happenings others) :
    seen lib happenings w = seen lib others v := by
  induction same generalizing w v with
  | nil => rfl
  | cons first rest ih =>
      have after := step_alike blind worlds first
      simp only [seen, reply_alike blind worlds first, after.log, ih after]

def keyed (key : Bytes) : World Memory.State where
  lib := Memory.State.initial { Memory.Settings.harmless with
    script := { Memory.Script.silent with chunks := [.data (Bytes.ofString (Sudo.make "root" none "x").prompt)] } } []
  files := FileSystem.empty.put ["root", "key"] (.file key 0o600)
  log := []
  cache := Cache.empty
  members := [⟨Held.nothing, default⟩]

def entering (password answer : String) : Connection where
  __ := Memory.web
  options := { Memory.web.options with password := some password, privateKeyFile := some "/root/key" }
  escalation := some (Sudo.make "root" (some answer) "x").escalation

def visit (password answer : String) : List (Happening Memory.State) :=
  [.act 0 (entering password answer) .connect, .act 0 (entering password answer) (.exec "id" none true),
    .act 0 (entering password answer) .close]

theorem keyed_alike (key other : Bytes) : (keyed key).Alike (fun _ => True) Memory.Indistinct (keyed other) :=
  ⟨rfl, (FileSystem.Alike.refl _ _).put (.content key other _ trivial), rfl, rfl, rfl⟩

theorem entering_alike (password other : String) {answer reply : String}
    (answered : (sanitizePassword (some answer)).isSome = (sanitizePassword (some reply)).isSome) :
    (entering password answer).Alike Blur.all (entering other reply) :=
  .mk (some other) _ (.some trivial) (.some (Sudo.escalation_alike "root" "x" answered))

def sent (w : World Memory.State) : List (List Bytes) := w.lib.channels.map Memory.Channel.sent

theorem seen_two_logins :
    (keyed [1]).Alike (fun _ => True) Memory.Indistinct (keyed [2]) ∧
    (entering "first" "one").Alike Blur.all (entering "second" "two") ∧
    sent ((visit "first" "one").foldl (plainStep Memory.mock) (keyed [1])) = [[Bytes.ofString "one\n"]] ∧
    sent ((visit "second" "two").foldl (plainStep Memory.mock) (keyed [2])) = [[Bytes.ofString "two\n"]] ∧
    seen Memory.mock (visit "first" "one") (keyed [1]) = seen Memory.mock (visit "second" "two") (keyed [2]) := by
  have alike : (entering "first" "one").Alike Blur.all (entering "second" "two") :=
    entering_alike "first" "second" (by decide +kernel)
  refine ⟨keyed_alike [1] [2], alike, by decide +kernel, by decide +kernel, ?_⟩
  apply seen_without_secrets (Memory.library_blind "mock" ⟨1, 0, 0⟩) (keyed_alike [1] [2])
  exact .cons (.act 0 _ alike) (.cons (.act 0 _ alike) (.cons (.act 0 _ alike) .nil))

end World
end RemoteExec

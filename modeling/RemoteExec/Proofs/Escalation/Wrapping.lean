import RemoteExec.Escalation.Sudo
import RemoteExec.Proofs.Text.BareWords

namespace RemoteExec.Sudo

open Text.ShellWords

variable {s : Sudo}

def intended (s : Sudo) (command : String) : List String :=
  ["sudo", "-H", "-S"] ++ (if s.password.isSome then ["-p", s.prompt] else ["-n"]) ++
    ["-u", s.user, "/bin/sh", "-c", "echo " ++ s.marker ++ "; " ++ command]

def Lettered (s : Sudo) : Prop := ∀ c ∈ s.nonce.toList, c.isAlphanum = true

instance : DecidablePred Lettered := fun s => List.decidableBAll (fun c : Char => c.isAlphanum = true) s.nonce.toList

theorem prompt_quiet (lettered : s.Lettered) : Quiet s.prompt.toList := by
  have nonce : Quiet s.nonce.toList := by
    intro c member
    have letter := lettered c member
    refine ⟨?_, ?_⟩ <;> rintro rfl <;> exact absurd letter (by decide)
  have before : Quiet "[sudo via ssh-transport, key=".toList := by decide +kernel
  have after : Quiet "] password:".toList := by decide +kernel
  have whole : s.prompt = "[sudo via ssh-transport, key=" ++ s.nonce ++ "] password:" := rfl
  rw [whole, String.toList_append, String.toList_append]
  exact (before.append nonce).append after

def leading (s : Sudo) (lettered : s.Lettered) : List Part :=
  [.bare "sudo".toList (by decide), .bare "-H".toList (by decide), .bare "-S".toList (by decide)] ++
    (if s.password.isSome then
      [.bare "-p".toList (by decide), .doubled s.prompt.toList (prompt_quiet lettered)]
    else [.bare "-n".toList (by decide)]) ++
    [.bare "-u".toList (by decide)]

theorem commandLine_text (s : Sudo) (command : String) :
    (s.commandLine command).toList =
      "sudo -H -S ".toList ++ (if s.password.isSome then "-p \"".toList ++ s.prompt.toList ++ "\"".toList else "-n".toList) ++
        " -u ".toList ++ s.user.toList ++ " /bin/sh -c '".toList ++
        escape ("echo " ++ s.marker ++ "; " ++ command).toList ++ "'".toList := by
  have whole : s.commandLine command =
      "sudo -H -S " ++ (if s.password.isSome then "-p \"" ++ s.prompt ++ "\"" else "-n") ++ " -u " ++ s.user ++
        " /bin/sh -c '" ++ ("echo " ++ s.marker ++ "; " ++ command).shellEscaped ++ "'" := rfl
  rw [whole]
  generalize "echo " ++ s.marker ++ "; " ++ command = inner
  simp only [String.toList_append, String.shellEscaped, String.toList_ofList]
  cases s.password.isSome
  · rfl
  · simp only [if_true, String.toList_append]

-- The user stands between words whose reading is known and the last word, which is quoted.
theorem commandLine_parts (lettered : s.Lettered) (command : String) :
    (s.commandLine command).toList =
      [' '].intercalate ((s.leading lettered).map Part.text) ++ [' '] ++
        (s.user.toList ++ ' ' :: ([' '].intercalate ["/bin/sh".toList, "-c".toList] ++
          ' ' :: '\'' :: (escape ("echo " ++ s.marker ++ "; " ++ command).toList ++ ['\'']))) := by
  rw [commandLine_text]
  generalize escape ("echo " ++ s.marker ++ "; " ++ command).toList = inner
  have shell : " /bin/sh -c '".toList = ' ' :: ([' '].intercalate ["/bin/sh".toList, "-c".toList] ++ [' ', '\'']) := by
    decide
  cases asked : s.password.isSome with
  | false =>
      have before : "sudo -H -S ".toList ++ "-n".toList ++ " -u ".toList =
          [' '].intercalate ((s.leading lettered).map Part.text) ++ [' '] := by
        rw [leading, asked]
        rfl
      rw [if_neg (by decide), before, shell]
      simp
  | true =>
      have before : "sudo -H -S ".toList ++ ("-p \"".toList ++ s.prompt.toList ++ "\"".toList) ++ " -u ".toList =
          [' '].intercalate ((s.leading lettered).map Part.text) ++ [' '] := by
        rw [leading, asked]
        simp [Part.text, List.intercalate_cons_cons]
      rw [if_pos rfl, before, shell]
      simp

theorem leading_words (lettered : s.Lettered) :
    (s.leading lettered).map Part.word =
      (["sudo", "-H", "-S"] ++ (if s.password.isSome then ["-p", s.prompt] else ["-n"]) ++ ["-u"]).map String.toList := by
  rw [leading]
  cases s.password.isSome <;> rfl

theorem intended_words (lettered : s.Lettered) (command : String) :
    (s.intended command).map String.toList =
      (s.leading lettered).map Part.word ++ s.user.toList :: (["/bin/sh".toList, "-c".toList] ++
        [("echo " ++ s.marker ++ "; " ++ command).toList]) := by
  rw [leading_words, intended]
  simp only [List.map_append, List.map_cons, List.map_nil, List.append_assoc, List.cons_append, List.nil_append]

theorem words_iff_user_plain (lettered : s.Lettered) (command : String) :
    (s.commandLine command).shellWords? = some (s.intended command) ↔ Plain s.user.toList := by
  have started := (Spaced.intercalate ((s.leading lettered).map Part.text)).foldl_separator []
  have shell : ∀ w ∈ ["/bin/sh".toList, "-c".toList], Plain w := by decide
  have user := alone_iff shell (Spaced.intercalate _) ((s.leading lettered).map Part.word).reverse s.user.toList
    ("echo " ++ s.marker ++ "; " ++ command).toList
  rw [shellWords_iff, split, commandLine_parts lettered, List.foldl_append, started, intended_words lettered,
    List.append_nil, ← user, List.reverse_reverse]

theorem deploy_reads_back :
    (make "deploy" (some "secret") "3f2a").Lettered ∧
      ((make "deploy" (some "secret") "3f2a").commandLine "echo 'hi'\nid #").shellWords? =
        some ((make "deploy" (some "secret") "3f2a").intended "echo 'hi'\nid #") := by
  have lettered : (make "deploy" (some "secret") "3f2a").Lettered := by decide
  exact ⟨lettered, (words_iff_user_plain lettered "echo 'hi'\nid #").mpr (by decide)⟩

theorem user_brings_command :
    ((make "root reboot #" none "3f2a").commandLine "id").shellWords? =
        some ["sudo", "-H", "-S", "-n", "-u", "root", "reboot"] ∧
      ((make "root reboot #" none "3f2a").commandLine "id").shellWords? ≠
        some ((make "root reboot #" none "3f2a").intended "id") := by
  have read : ((make "root reboot #" none "3f2a").commandLine "id").shellWords? =
      some ["sudo", "-H", "-S", "-n", "-u", "root", "reboot"] := by decide +kernel
  refine ⟨read, ?_⟩
  rw [read]
  decide +kernel

end RemoteExec.Sudo

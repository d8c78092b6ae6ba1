import Mathlib.Data.List.Infix
import RemoteExec.Escalation

namespace RemoteExec

theorem Bytes.contains_iff (needle hay : Bytes) : Bytes.contains needle hay = true ↔ needle <:+: hay := by
  induction hay with
  | nil => simp [Bytes.contains]
  | cons b rest ih => simp [Bytes.contains, ih, List.infix_cons_iff]

namespace Escalation

def Asks (e : Escalation) (output : Bytes) : Prop :=
  ∃ earlier line later, output.lines = earlier ++ line :: later ∧ e.isPrompt line = true ∧
    ∀ seen ∈ earlier ++ [line], e.isSuccess seen = false

theorem scanLines_prompt_iff (e : Escalation) (lines : List Bytes) :
    e.scanLines lines = .passwordPrompt ↔
      ∃ earlier line later, lines = earlier ++ line :: later ∧ e.isPrompt line = true ∧
        ∀ seen ∈ earlier ++ [line], e.isSuccess seen = false := by
  induction lines with
  | nil => simp [scanLines]
  | cons first rest ih =>
      cases success : e.isSuccess first with
      | true =>
          have marked : e.scanLines (first :: rest) ≠ .passwordPrompt := by simp [scanLines, success]
          refine iff_of_false marked ?_
          rintro ⟨earlier, line, later, same, _, quiet⟩
          cases earlier with
          | nil =>
              cases same
              exact absurd success (by simp [quiet])
          | cons head tail =>
              cases same
              exact absurd success (by simp [quiet])
      | false =>
          cases prompt : e.isPrompt first with
          | true =>
              have asks : e.scanLines (first :: rest) = .passwordPrompt := by simp [scanLines, success, prompt]
              refine iff_of_true asks ⟨[], first, rest, rfl, prompt, ?_⟩
              simpa using success
          | false =>
              have passed : e.scanLines (first :: rest) = e.scanLines rest := by simp [scanLines, success, prompt]
              rw [passed, ih]
              constructor
              · rintro ⟨earlier, line, later, same, isPrompt, quiet⟩
                refine ⟨first :: earlier, line, later, by rw [same]; rfl, isPrompt, ?_⟩
                intro seen member
                rcases List.mem_cons.mp member with head | tail
                · rw [head, success]
                · exact quiet seen tail
              · rintro ⟨earlier, line, later, same, isPrompt, quiet⟩
                cases earlier with
                | nil =>
                    cases same
                    rw [isPrompt] at prompt
                    cases prompt
                | cons head tail =>
                    cases same
                    exact ⟨tail, line, later, rfl, isPrompt, fun seen member => quiet seen (List.mem_cons_of_mem _ member)⟩

theorem scan_prompt_iff (e : Escalation) (output : Bytes) : e.scan output = .passwordPrompt ↔ e.Asks output :=
  scanLines_prompt_iff e output.lines

end Escalation
end RemoteExec

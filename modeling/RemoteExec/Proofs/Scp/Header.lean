import RemoteExec.Proofs.Text.Lines
import RemoteExec.Scp.Header

namespace RemoteExec

namespace Decimal

theorem digitsValue_digits (n : Nat) : digitsValue (Nat.toDigits 10 n) = n := by
  have value : ∀ ds : List Char, digitsValue ds = Nat.ofDigitChars 10 ds 0 := by
    intro ds
    simp only [digitsValue, Nat.ofDigitChars_eq_foldl, digitValue, Nat.mul_comm]
    rfl
  rw [value, Nat.ofDigitChars_ten_toDigits]

theorem readNat_digits {limit n : Nat} (fits : n ≤ limit) : readNat? limit (Nat.toDigits 10 n) = some n := by
  have digits : ∀ c ∈ Nat.toDigits 10 n, c.isDigit = true := fun c member =>
    Nat.isDigit_of_mem_toDigits (by decide) (by decide) member
  have value := digitsValue_digits n
  cases written : Nat.toDigits 10 n with
  | nil => exact absurd written Nat.toDigits_ne_nil
  | cons first rest =>
      rw [written] at digits value
      have unsigned : first ≠ '+' := by
        rintro rfl
        exact absurd (digits '+' List.mem_cons_self) (by decide)
      have all : (first :: rest).all Char.isDigit = true := List.all_eq_true.mpr digits
      simp [readNat?, unsigned, all, value, fits]

end Decimal

namespace Scp

-- What stands on the line between its first letter and the name.
def opening (mode size : Nat) : List Char := (octal mode).toList ++ ' ' :: (Nat.toDigits 10 size ++ [' '])

def nameOf (remote : String) : String := (Path.fileName? remote).getD remote

theorem headerLine_letters (mode size : Nat) (remote : String) :
    (headerLine mode size remote).toList = 'C' :: (opening mode size ++ ((nameOf remote).toList ++ ['\n'])) := by
  simp [headerLine, opening, nameOf]

theorem digit_unbroken {c : Char} (digit : c.isDigit = true) : Text.isBlank c = false := by
  simp only [Char.isDigit, Bool.and_eq_true, decide_eq_true_eq, ge_iff_le, UInt32.le_iff_toNat_le] at digit
  have lower : 48 ≤ c.toNat := digit.1
  have upper : c.toNat ≤ 57 := digit.2
  simp [Text.isBlank]
  omega

theorem octal_unbroken (mode : Nat) : ∀ c ∈ (octal mode).toList, Text.isBlank c = false := by
  intro c member
  simp only [octal, String.toList_ofList, List.mem_append] at member
  rcases member with zero | digit
  · rw [List.eq_of_mem_replicate zero]
    rfl
  · exact digit_unbroken (Nat.isDigit_of_mem_toDigits (by decide) (by decide) digit)

theorem octal_given (mode : Nat) : (octal mode).toList ≠ [] := by
  simp [octal, Nat.toDigits_ne_nil]

theorem opening_unbroken (mode size : Nat) : '\n' ∉ opening mode size := by
  have blank : Text.isBlank '\n' = true := rfl
  simp only [opening, List.mem_append, List.mem_cons, List.not_mem_nil, or_false, not_or]
  refine ⟨fun member => ?_, by decide, fun member => ?_, by decide⟩
  · rw [octal_unbroken mode _ member] at blank
    cases blank
  · rw [digit_unbroken (Nat.isDigit_of_mem_toDigits (by decide) (by decide) member)] at blank
    cases blank

theorem headerSize_line {mode size : Nat} (fits : size ≤ Decimal.largest64) (rest : List Char) :
    headerSize (String.ofList ('C' :: (opening mode size ++ rest))) = .ok size := by
  have digits : ∀ c ∈ Nat.toDigits 10 size, Text.isBlank c = false := fun c member =>
    digit_unbroken (Nat.isDigit_of_mem_toDigits (by decide) (by decide) member)
  have cut : Text.words (opening mode size ++ rest) =
      (octal mode).toList :: Nat.toDigits 10 size :: Text.words rest := by
    rw [opening, List.append_assoc, List.cons_append, List.append_assoc,
      Text.words_cons (octal_unbroken mode) (octal_given mode) rfl, List.singleton_append,
      Text.words_cons digits Nat.toDigits_ne_nil rfl]
  simp only [headerSize, String.toList_ofList, cut, Decimal.readNat_digits fits]

end Scp
end RemoteExec

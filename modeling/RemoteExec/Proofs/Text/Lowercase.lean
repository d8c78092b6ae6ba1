import Mathlib.Tactic.Tauto
import RemoteExec.Text.Blank
import RemoteExec.Text.Lowercase

namespace RemoteExec.Text

-- Codes that no letter in lower case has: those up to the marks before the small letters, of the marks after them,
-- of blanks, of the two capitals with a mapping of their own, and of no character at all.
def unlettered : List (Nat × Nat) :=
  [(0, 0x60), (0x7B, 0xA0), (0x130, 0x130), (0x3A3, 0x3A3), (0x1680, 0x1680), (0x2000, 0x200A), (0x2028, 0x2029),
    (0x202F, 0x202F), (0x205F, 0x205F), (0x3000, 0x3000), (0xD800, 0xDFFF)]

def apart (r s : Nat × Nat × Nat × Nat) : Bool :=
  Nat.blt (r.2.2.2 + (r.2.1 - r.1)) s.1 || Nat.blt s.2.1 r.2.2.2 ||
    (Nat.beq s.2.2.1 2 && Nat.beq ((r.2.2.2 + s.1) % 2) 1 && (Nat.beq r.2.2.1 2 || Nat.beq r.1 r.2.1))

theorem runs_apart : (lowerRuns.all fun r => lowerRuns.all fun s => apart r s) = true := by decide +kernel

theorem runs_lettered :
    (lowerRuns.all fun r => Nat.blt (r.2.2.2 + (r.2.1 - r.1)) 0x110000 && unlettered.all fun s =>
      Nat.blt (r.2.2.2 + (r.2.1 - r.1)) s.1 || Nat.blt s.2 r.2.2.2) = true := by decide +kernel

def Lettered (n : Nat) : Prop := ∀ s ∈ unlettered, n < s.1 ∨ s.2 < n

def Unmoved (n : Nat) : Prop := ∀ s ∈ lowerRuns, ¬ (s.1 ≤ n ∧ n ≤ s.2.1 ∧ (n - s.1) % s.2.2.1 = 0)

structure Settled (c : Char) : Prop where
  same : lowerChar c = c
  no_sigma : c ≠ 'Σ'
  no_dotted : c ≠ 'İ'

structure Lowered (c : Char) : Prop where
  settled : lowerChar c = c
  lettered : Lettered c.toNat

theorem lowerChar_small {c : Char} (small : c.toNat < 0x80) (past : 0x5A < c.toNat) : lowerChar c = c := by
  simp only [lowerChar, small, if_true]
  rw [if_neg (by omega)]

theorem lowerChar_unmoved {c : Char} (wide : ¬ c.toNat < 0x80) (unmoved : Unmoved c.toNat) : lowerChar c = c := by
  have none_found : (lowerRuns.find? fun r =>
      r.1 ≤ c.toNat && c.toNat ≤ r.2.1 && (c.toNat - r.1) % r.2.2.1 == 0) = none := by
    refine List.find?_eq_none.mpr fun s member inside => unmoved s member ?_
    simpa [and_assoc] using inside
  simp only [lowerChar, wide, if_false, none_found]

theorem code_ofNat {n : Nat} (valid : n.isValidChar) : (Char.ofNat n).toNat = n := by
  rw [Char.ofNat, dif_pos valid]
  rfl

theorem lowered_of_code {n : Nat} (valid : n < 0x110000) (lettered : Lettered n) (unmoved : 0x80 ≤ n → Unmoved n) :
    Lowered (Char.ofNat n) := by
  have small := lettered (0, 0x60) (by simp [unlettered])
  have scalar := lettered (0xD800, 0xDFFF) (by simp [unlettered])
  have code : (Char.ofNat n).toNat = n := code_ofNat (by simp only [Nat.isValidChar]; omega)
  refine ⟨?_, by rwa [code]⟩
  by_cases ascii : n < 0x80
  · exact lowerChar_small (by omega) (by omega)
  · exact lowerChar_unmoved (by omega) (by rw [code]; exact unmoved (by omega))

theorem mapped_unmoved {r : Nat × Nat × Nat × Nat} (run : r ∈ lowerRuns) {n : Nat} (inside : r.1 ≤ n ∧ n ≤ r.2.1)
    (step : (n - r.1) % r.2.2.1 = 0) : Unmoved (n - r.1 + r.2.2.2) := by
  intro s member moved
  have checked := List.all_eq_true.mp (List.all_eq_true.mp runs_apart r run) s member
  simp only [apart, Bool.or_eq_true, Bool.and_eq_true, Nat.blt_eq, Nat.beq_eq] at checked
  obtain ⟨from_first, to_last, stepped⟩ := moved
  rcases checked with (below | above) | ⟨⟨pairs, parity⟩, single⟩
  · omega
  · omega
  · rw [pairs] at stepped
    rcases single with paired | single
    · rw [paired] at step
      omega
    · omega

theorem mapped_lettered {r : Nat × Nat × Nat × Nat} (run : r ∈ lowerRuns) {n : Nat} (inside : r.1 ≤ n ∧ n ≤ r.2.1) :
    n - r.1 + r.2.2.2 < 0x110000 ∧ Lettered (n - r.1 + r.2.2.2) := by
  have checked := List.all_eq_true.mp runs_lettered r run
  simp only [Bool.and_eq_true, Nat.blt_eq, List.all_eq_true, Bool.or_eq_true] at checked
  refine ⟨by omega, fun s member => ?_⟩
  rcases checked.2 s member with below | above
  · exact Or.inl (by omega)
  · exact Or.inr (by omega)

theorem settled_ascii {c : Char} (small : c.toNat < 0x80) (other : ¬ (0x41 ≤ c.toNat ∧ c.toNat ≤ 0x5A)) : Settled c := by
  refine ⟨by simp only [lowerChar, small, other, if_true, if_false], ?_, ?_⟩
  · rintro rfl
    exact absurd small (by decide)
  · rintro rfl
    exact absurd small (by decide)

theorem lowerChar_cases (c : Char) : lowerChar c = c ∨ Lowered (lowerChar c) := by
  by_cases ascii : c.toNat < 0x80
  · by_cases capital : 0x41 ≤ c.toNat ∧ c.toNat ≤ 0x5A
    · refine Or.inr ?_
      have small : lowerChar c = Char.ofNat (c.toNat + 32) := by simp only [lowerChar, ascii, capital, and_self, if_true]
      rw [small]
      refine lowered_of_code (by omega) ?_ (by omega)
      intro s member
      simp only [unlettered, List.mem_cons, List.not_mem_nil, or_false] at member
      rcases member with rfl | rfl | rfl | rfl | rfl | rfl | rfl | rfl | rfl | rfl | rfl
      all_goals omega
    · exact Or.inl (settled_ascii ascii capital).same
  · cases found : lowerRuns.find? fun r => r.1 ≤ c.toNat && c.toNat ≤ r.2.1 && (c.toNat - r.1) % r.2.2.1 == 0 with
    | none => exact Or.inl (by simp only [lowerChar, ascii, if_false, found])
    | some r =>
        have inside := List.find?_some found
        simp only [Bool.and_eq_true, decide_eq_true_eq, beq_iff_eq] at inside
        have run := List.mem_of_find?_eq_some found
        obtain ⟨valid, lettered⟩ := mapped_lettered run inside.1
        have mapped : lowerChar c = Char.ofNat (c.toNat - r.1 + r.2.2.2) := by
          simp only [lowerChar, ascii, if_false, found]
        rw [mapped]
        exact Or.inr (lowered_of_code valid lettered fun _ => mapped_unmoved run inside.1 inside.2)

theorem Lowered.stays {c : Char} (lowered : Lowered c) : Settled c := by
  have sigma := lowered.lettered (0x3A3, 0x3A3) (by simp [unlettered])
  have dotted := lowered.lettered (0x130, 0x130) (by simp [unlettered])
  refine ⟨lowered.settled, ?_, ?_⟩
  · rintro rfl
    exact absurd sigma (by decide)
  · rintro rfl
    exact absurd dotted (by decide)

theorem Lowered.no_blank {c : Char} (lowered : Lowered c) : isBlank c = false := by
  have away := lowered.lettered
  simp only [Lettered, unlettered, List.forall_mem_cons, List.not_mem_nil] at away
  rw [Bool.eq_false_iff]
  simp only [isBlank, ne_eq, Bool.or_eq_true, Bool.and_eq_true, decide_eq_true_eq, beq_iff_eq]
  omega

theorem Lowered.no_mark {c : Char} (lowered : Lowered c) : c ∉ ['#', '@', '|', ','] := by
  have low := lowered.lettered (0, 0x60) (by simp [unlettered])
  have high := lowered.lettered (0x7B, 0xA0) (by simp [unlettered])
  simp only [List.mem_cons, List.not_mem_nil, or_false]
  rintro (rfl | rfl | rfl | rfl)
  · exact absurd low (by decide)
  · exact absurd low (by decide)
  · exact absurd high (by decide)
  · exact absurd low (by decide)

theorem special_lowered : ∀ c ∈ ['ς', 'σ', 'i', '\u0307'], Lowered c := by
  have away : (['ς', 'σ', 'i', '\u0307'].all fun c => lowerChar c == c && unlettered.all fun s =>
      Nat.blt c.toNat s.1 || Nat.blt s.2 c.toNat) = true := by decide +kernel
  intro c member
  have checked := List.all_eq_true.mp away c member
  simp only [Bool.and_eq_true, beq_iff_eq, List.all_eq_true, Bool.or_eq_true, Nat.blt_eq] at checked
  exact ⟨checked.1, checked.2⟩

def LowersTo (c : Char) (made : List Char) : Prop :=
  made = [c] ∧ Settled c ∨ made ≠ [] ∧ ∀ d ∈ made, Lowered d

theorem lowerFrom_append (before out s : List Char) : lowerFrom before out s = out.reverse ++ lowerFrom before [] s := by
  induction s generalizing before out with
  | nil => simp [lowerFrom]
  | cons c rest ih =>
      simp only [lowerFrom]
      split
      · rw [ih _ (_ :: out), ih _ [_]]
        simp
      · split
        · rw [ih _ (_ :: _ :: out), ih _ [_, _]]
          simp
        · rw [ih _ (_ :: out), ih _ [_]]
          simp

theorem lowerFrom_cons (before : List Char) (c : Char) (rest : List Char) :
    ∃ made, lowerFrom before [] (c :: rest) = made ++ lowerFrom (c :: before) [] rest ∧ LowersTo c made := by
  simp only [lowerFrom]
  split
  next sigma =>
    refine ⟨[if casedNext before && !casedNext rest then 'ς' else 'σ'], ?_, Or.inr ⟨by simp, ?_⟩⟩
    · rw [lowerFrom_append]
      simp
    · intro d member
      rw [List.mem_singleton.mp member]
      split
      · exact special_lowered 'ς' (by simp)
      · exact special_lowered 'σ' (by simp)
  next other =>
    split
    next dotted =>
      refine ⟨['i', '\u0307'], ?_, Or.inr ⟨by simp, fun d member => special_lowered d ?_⟩⟩
      · rw [lowerFrom_append]
        simp
      · simp only [List.mem_cons, List.not_mem_nil, or_false] at member ⊢
        tauto
    next plain =>
      refine ⟨[lowerChar c], ?_, ?_⟩
      · rw [lowerFrom_append]
        simp
      · rcases lowerChar_cases c with same | lowered
        · exact Or.inl ⟨by rw [same], same, by simpa using other, by simpa using plain⟩
        · exact Or.inr ⟨by simp, by simpa using lowered⟩

theorem mem_lowerFrom {before s : List Char} {d : Char} (member : d ∈ lowerFrom before [] s) :
    Lowered d ∨ d ∈ s ∧ Settled d := by
  induction s generalizing before with
  | nil => simp [lowerFrom] at member
  | cons c rest ih =>
      obtain ⟨made, split, becomes⟩ := lowerFrom_cons before c rest
      rw [split] at member
      rcases List.mem_append.mp member with first | later
      · rcases becomes with ⟨rfl, settled⟩ | ⟨_, lowered⟩
        · rw [List.mem_singleton.mp first]
          exact Or.inr ⟨List.mem_cons_self, settled⟩
        · exact Or.inl (lowered d first)
      · rcases ih later with lowered | ⟨older, settled⟩
        · exact Or.inl lowered
        · exact Or.inr ⟨List.mem_cons_of_mem _ older, settled⟩

theorem lower_stays (s : List Char) : ∀ d ∈ lower s, Settled d := by
  intro d member
  rcases mem_lowerFrom member with lowered | ⟨_, settled⟩
  · exact lowered.stays
  · exact settled

theorem lower_spares {p : Char → Prop} {s : List Char} (given : ∀ c ∈ s, p c) (letters : ∀ c, Lowered c → p c) :
    ∀ d ∈ lower s, p d := by
  intro d member
  rcases mem_lowerFrom member with lowered | ⟨older, _⟩
  · exact letters d lowered
  · exact given d older

theorem lowerFrom_settled {s : List Char} (settled : ∀ c ∈ s, Settled c) (before : List Char) :
    lowerFrom before [] s = s := by
  induction s generalizing before with
  | nil => rfl
  | cons c rest ih =>
      have first := settled c List.mem_cons_self
      have later := ih fun d member => settled d (List.mem_cons_of_mem _ member)
      simp only [lowerFrom, beq_iff_eq, first.no_sigma, first.no_dotted, if_false, first.same]
      rw [lowerFrom_append, later]
      rfl

theorem lower_settled {s : List Char} (settled : ∀ c ∈ s, Settled c) : lower s = s := lowerFrom_settled settled []

theorem lower_lower (s : List Char) : lower (lower s) = lower s := lower_settled (lower_stays s)

theorem lower_head (c : Char) (rest : List Char) :
    ∃ d later, lower (c :: rest) = d :: later ∧ (d = c ∨ Lowered d) := by
  obtain ⟨made, split, becomes⟩ := lowerFrom_cons [] c rest
  rcases becomes with ⟨rfl, _⟩ | ⟨some_made, lowered⟩
  · exact ⟨c, _, split, Or.inl rfl⟩
  · cases made with
    | nil => exact absurd rfl some_made
    | cons d more => exact ⟨d, _, split, Or.inr (lowered d List.mem_cons_self)⟩

section Folding

-- What the mapping asks of a character: two that agree in all of it are not told apart.
structure Folds (c d : Char) : Prop where
  lower : lowerChar c = lowerChar d
  sigma : (c == 'Σ') = (d == 'Σ')
  dotted : (c == 'İ') = (d == 'İ')
  cased : inRanges casedRanges c = inRanges casedRanges d
  ignorable : inRanges caseIgnorableRanges c = inRanges caseIgnorableRanges d

theorem capital_folds : ∀ n < 26, Folds (Char.ofNat (97 + n)) (Char.ofNat (65 + n)) := by
  have checked : ∀ n < 26,
      lowerChar (Char.ofNat (97 + n)) = lowerChar (Char.ofNat (65 + n)) ∧
      (Char.ofNat (97 + n) == 'Σ') = (Char.ofNat (65 + n) == 'Σ') ∧
      (Char.ofNat (97 + n) == 'İ') = (Char.ofNat (65 + n) == 'İ') ∧
      inRanges casedRanges (Char.ofNat (97 + n)) = inRanges casedRanges (Char.ofNat (65 + n)) ∧
      inRanges caseIgnorableRanges (Char.ofNat (97 + n)) = inRanges caseIgnorableRanges (Char.ofNat (65 + n)) := by
    decide +kernel
  intro n letter
  obtain ⟨lower, sigma, dotted, cased, ignorable⟩ := checked n letter
  exact ⟨lower, sigma, dotted, cased, ignorable⟩

theorem asciiLower_folds (c : Char) : Folds (asciiLower c) c := by
  rw [asciiLower]
  split
  next capital =>
    have low : 65 ≤ c.toNat := capital.1
    have high : c.toNat ≤ 90 := capital.2
    have letter := capital_folds (c.toNat - 65) (by omega)
    rw [show 65 + (c.toNat - 65) = c.toNat by omega, show 97 + (c.toNat - 65) = c.toNat + 32 by omega,
      Char.ofNat_toNat] at letter
    exact letter
  next => exact ⟨rfl, rfl, rfl, rfl, rfl⟩

theorem casedNext_folded (s : List Char) : casedNext (s.map asciiLower) = casedNext s := by
  induction s with
  | nil => rfl
  | cons c rest ih =>
      have folds := asciiLower_folds c
      unfold casedNext at ih ⊢
      rw [List.map_cons, List.dropWhile_cons, List.dropWhile_cons, folds.ignorable]
      by_cases ignored : inRanges caseIgnorableRanges c = true
      · rw [if_pos ignored, if_pos ignored]
        exact ih
      · rw [if_neg ignored, if_neg ignored]
        exact folds.cased

theorem lowerFrom_folded (s before out : List Char) :
    lowerFrom (before.map asciiLower) out (s.map asciiLower) = lowerFrom before out s := by
  induction s generalizing before out with
  | nil => rfl
  | cons c rest ih =>
      have folds := asciiLower_folds c
      rw [List.map_cons, lowerFrom, lowerFrom, folds.sigma, folds.dotted, folds.lower, casedNext_folded, casedNext_folded,
        ← List.map_cons, ih, ih, ih]

theorem lower_sameWord {word other : List Char} (same : sameWord word other = true) : lower word = lower other := by
  rw [sameWord, beq_iff_eq] at same
  rw [lower, lower, ← lowerFrom_folded word, ← lowerFrom_folded other, same]

end Folding
end RemoteExec.Text

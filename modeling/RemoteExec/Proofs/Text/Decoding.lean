import RemoteExec.Proofs.Text.Lowercase
import RemoteExec.Proofs.Text.Utf8

namespace RemoteExec.Bytes

section Encoding

variable {v n m k j : Nat}

theorem encode_code (valid : v.isValidChar) :
    String.utf8EncodeChar (Char.ofNat v) =
      if v ≤ 0x7F then [UInt8.ofNat v]
      else if v ≤ 0x7FF then [UInt8.ofNat (v / 64 % 32 + 192), UInt8.ofNat (v % 64 + 128)]
      else if v ≤ 0xFFFF then
        [UInt8.ofNat (v / 4096 % 16 + 224), UInt8.ofNat (v / 64 % 64 + 128), UInt8.ofNat (v % 64 + 128)]
      else
        [UInt8.ofNat (v / 262144 % 8 + 240), UInt8.ofNat (v / 4096 % 64 + 128), UInt8.ofNat (v / 64 % 64 + 128),
          UInt8.ofNat (v % 64 + 128)] := by
  have code : (Char.ofNat v).val.toNat = v := Text.code_ofNat valid
  rw [String.utf8EncodeChar, code]

theorem encode_two (lead : 0xC2 ≤ n ∧ n ≤ 0xDF) (tail : 0x80 ≤ m ∧ m ≤ 0xBF) :
    String.utf8EncodeChar (Char.ofNat ((n - 0xC0) * 64 + (m - 0x80))) = [UInt8.ofNat n, UInt8.ofNat m] := by
  generalize value : (n - 0xC0) * 64 + (m - 0x80) = v
  have parts : v / 64 % 32 + 192 = n ∧ v % 64 + 128 = m := by omega
  rw [encode_code (.inl (by omega)), if_neg (by omega), if_pos (by omega), parts.1, parts.2]

theorem encode_three (lead : 0xE0 ≤ n ∧ n ≤ 0xEF) (tail : 0x80 ≤ m ∧ m ≤ 0xBF) (last : 0x80 ≤ k ∧ k ≤ 0xBF)
    (long : n = 0xE0 → 0xA0 ≤ m) (scalar : n = 0xED → m ≤ 0x9F) :
    String.utf8EncodeChar (Char.ofNat (((n - 0xE0) * 64 + (m - 0x80)) * 64 + (k - 0x80))) =
      [UInt8.ofNat n, UInt8.ofNat m, UInt8.ofNat k] := by
  generalize value : ((n - 0xE0) * 64 + (m - 0x80)) * 64 + (k - 0x80) = v
  have parts : v / 4096 % 16 + 224 = n ∧ v / 64 % 64 + 128 = m ∧ v % 64 + 128 = k := by omega
  have valid : v.isValidChar := by
    simp only [Nat.isValidChar]
    omega
  rw [encode_code valid, if_neg (by omega), if_neg (by omega), if_pos (by omega), parts.1, parts.2.1, parts.2.2]

theorem encode_four (lead : 0xF0 ≤ n ∧ n ≤ 0xF4) (tail : 0x80 ≤ m ∧ m ≤ 0xBF) (third : 0x80 ≤ k ∧ k ≤ 0xBF)
    (last : 0x80 ≤ j ∧ j ≤ 0xBF) (long : n = 0xF0 → 0x90 ≤ m) (scalar : n = 0xF4 → m ≤ 0x8F) :
    String.utf8EncodeChar (Char.ofNat ((((n - 0xF0) * 64 + (m - 0x80)) * 64 + (k - 0x80)) * 64 + (j - 0x80))) =
      [UInt8.ofNat n, UInt8.ofNat m, UInt8.ofNat k, UInt8.ofNat j] := by
  generalize value : (((n - 0xF0) * 64 + (m - 0x80)) * 64 + (k - 0x80)) * 64 + (j - 0x80) = v
  have parts : v / 262144 % 8 + 240 = n ∧ v / 4096 % 64 + 128 = m ∧ v / 64 % 64 + 128 = k ∧ v % 64 + 128 = j := by omega
  have valid : v.isValidChar := by
    simp only [Nat.isValidChar]
    omega
  rw [encode_code valid, if_neg (by omega), if_neg (by omega), if_neg (by omega), parts.1, parts.2.1, parts.2.2.1,
    parts.2.2.2]

end Encoding

inductive Completes : Pending → Bytes → Nat → Prop
  | last {p : Pending} {b : UInt8} (inside : p.low ≤ b ∧ b ≤ p.high) (last : p.due = 1) :
      Completes p [b] (p.value * 64 + (b.toNat - 0x80))
  | more {p : Pending} {b : UInt8} {tail : Bytes} {v : Nat} (inside : p.low ≤ b ∧ b ≤ p.high) (more : p.due ≠ 1)
      (later : Completes ⟨p.due - 1, 0x80, 0xBF, p.value * 64 + (b.toNat - 0x80)⟩ tail v) : Completes p (b :: tail) v

theorem inside_iff (low high b : UInt8) : (low ≤ b ∧ b ≤ high) ↔ low.toNat ≤ b.toNat ∧ b.toNat ≤ high.toNat := by
  rw [UInt8.le_iff_toNat_le, UInt8.le_iff_toNat_le]

theorem Completes.one {value v : Nat} {tail : Bytes} (completes : Completes ⟨1, 0x80, 0xBF, value⟩ tail v) :
    ∃ b : UInt8, tail = [b] ∧ (0x80 ≤ b.toNat ∧ b.toNat ≤ 0xBF) ∧ v = value * 64 + (b.toNat - 0x80) := by
  cases completes with
  | last inside last => exact ⟨_, rfl, (inside_iff 0x80 0xBF _).mp inside, rfl⟩
  | more inside more later => exact absurd rfl more

theorem Completes.next {due value v : Nat} {low high : UInt8} {tail : Bytes}
    (completes : Completes ⟨due + 2, low, high, value⟩ tail v) :
    ∃ (b : UInt8) (rest : Bytes), tail = b :: rest ∧ (low.toNat ≤ b.toNat ∧ b.toNat ≤ high.toNat) ∧
      Completes ⟨due + 1, 0x80, 0xBF, value * 64 + (b.toNat - 0x80)⟩ rest v := by
  cases completes with
  | last inside last => simp at last
  | more inside more later => exact ⟨_, _, rfl, (inside_iff low high _).mp inside, later⟩

section Leads

variable {n v : Nat} {low high : UInt8} {tail : Bytes}

theorem Completes.two (completes : Completes ⟨1, 0x80, 0xBF, n - 0xC0⟩ tail v) (lead : 0xC2 ≤ n ∧ n ≤ 0xDF) :
    String.utf8EncodeChar (Char.ofNat v) = UInt8.ofNat n :: tail := by
  obtain ⟨b, rfl, inside, value⟩ := completes.one
  rw [value, encode_two lead inside, UInt8.ofNat_toNat]

theorem Completes.three (completes : Completes ⟨2, low, high, n - 0xE0⟩ tail v) (lead : 0xE0 ≤ n ∧ n ≤ 0xEF)
    (range : 0x80 ≤ low.toNat ∧ high.toNat ≤ 0xBF) (long : n = 0xE0 → 0xA0 ≤ low.toNat)
    (scalar : n = 0xED → high.toNat ≤ 0x9F) : String.utf8EncodeChar (Char.ofNat v) = UInt8.ofNat n :: tail := by
  obtain ⟨b, rest, rfl, inside, later⟩ := completes.next
  obtain ⟨c, rfl, last, value⟩ := later.one
  rw [value, encode_three lead (by omega) last (by omega) (by omega), UInt8.ofNat_toNat, UInt8.ofNat_toNat]

theorem Completes.four (completes : Completes ⟨3, low, high, n - 0xF0⟩ tail v) (lead : 0xF0 ≤ n ∧ n ≤ 0xF4)
    (range : 0x80 ≤ low.toNat ∧ high.toNat ≤ 0xBF) (long : n = 0xF0 → 0x90 ≤ low.toNat)
    (scalar : n = 0xF4 → high.toNat ≤ 0x8F) : String.utf8EncodeChar (Char.ofNat v) = UInt8.ofNat n :: tail := by
  obtain ⟨b, rest, rfl, inside, later⟩ := completes.next
  obtain ⟨c, rest, rfl, third, later⟩ := later.next
  have third : 0x80 ≤ c.toNat ∧ c.toNat ≤ 0xBF := third
  obtain ⟨d, rfl, last, value⟩ := later.one
  rw [value, encode_four lead (by omega) third last (by omega) (by omega), UInt8.ofNat_toNat, UInt8.ofNat_toNat,
    UInt8.ofNat_toNat]

end Leads

theorem start_encodes (b : UInt8) :
    (∃ c, Decoder.start [] b = ⟨[some c], none⟩ ∧ String.utf8EncodeChar c = [b]) ∨
    (∃ p, Decoder.start [] b = ⟨[], some p⟩ ∧
      ∀ tail v, Completes p tail v → String.utf8EncodeChar (Char.ofNat v) = b :: tail) ∨
    Decoder.start [] b = ⟨[none], none⟩ := by
  have small := b.toNat_lt
  have same : UInt8.ofNat b.toNat = b := UInt8.ofNat_toNat
  generalize b.toNat = n at small same
  rw [← same, start_code [] small]
  by_cases one : n < 0x80
  · rw [if_pos one]
    refine .inl ⟨_, rfl, ?_⟩
    rw [encode_code (.inl (by omega)), if_pos (by omega)]
  rw [if_neg one]
  by_cases two : 0xC2 ≤ n ∧ n ≤ 0xDF
  · rw [if_pos two]
    exact .inr (.inl ⟨_, rfl, fun tail v completes => completes.two two⟩)
  rw [if_neg two]
  by_cases lowest : n = 0xE0
  · subst lowest
    exact .inr (.inl ⟨_, rfl, fun tail v completes =>
      Completes.three (n := 0xE0) completes (by omega) (by decide) (fun _ => by decide) (fun other => by omega)⟩)
  rw [if_neg lowest]
  by_cases surrogate : n = 0xED
  · subst surrogate
    exact .inr (.inl ⟨_, rfl, fun tail v completes =>
      Completes.three (n := 0xED) completes (by omega) (by decide) (fun other => by omega) (fun _ => by decide)⟩)
  rw [if_neg surrogate]
  by_cases three : 0xE1 ≤ n ∧ n ≤ 0xEF
  · rw [if_pos three]
    exact .inr (.inl ⟨_, rfl, fun tail v completes =>
      completes.three (by omega) (by decide) (fun first => absurd first lowest) (fun first => absurd first surrogate)⟩)
  rw [if_neg three]
  by_cases lowest : n = 0xF0
  · subst lowest
    exact .inr (.inl ⟨_, rfl, fun tail v completes =>
      Completes.four (n := 0xF0) completes (by omega) (by decide) (fun _ => by decide) (fun other => by omega)⟩)
  rw [if_neg lowest]
  by_cases highest : n = 0xF4
  · subst highest
    exact .inr (.inl ⟨_, rfl, fun tail v completes =>
      Completes.four (n := 0xF4) completes (by omega) (by decide) (fun other => by omega) (fun _ => by decide)⟩)
  rw [if_neg highest]
  by_cases four : 0xF1 ≤ n ∧ n ≤ 0xF3
  · rw [if_pos four]
    exact .inr (.inl ⟨_, rfl, fun tail v completes =>
      completes.four (by omega) (by decide) (fun first => absurd first lowest) (fun first => absurd first highest)⟩)
  rw [if_neg four]
  exact .inr (.inr rfl)

-- The bytes encode the characters, the first of which may be under way already.
def Spells (bytes : Bytes) (cs : List Char) : Option Pending → Prop
  | none => bytes = cs.flatMap String.utf8EncodeChar
  | some p => ∃ tail v rest later,
      bytes = tail ++ rest ∧ Completes p tail v ∧ cs = Char.ofNat v :: later ∧ rest = later.flatMap String.utf8EncodeChar

theorem foldl_spells (bytes : Bytes) (pending : Option Pending)
    (whole : ∀ c ∈ (bytes.foldl Decoder.step ⟨[], pending⟩).read, c.isSome)
    (ended : (bytes.foldl Decoder.step ⟨[], pending⟩).open? = none) :
    Spells bytes ((bytes.foldl Decoder.step ⟨[], pending⟩).read.reverse.filterMap id) pending := by
  induction bytes generalizing pending with
  | nil =>
      cases pending with
      | none => rfl
      | some p => cases ended
  | cons b rest ih =>
      rw [List.foldl_cons] at whole ended ⊢
      cases stepped : Decoder.step ⟨[], pending⟩ b with
      | mk first next =>
          rw [stepped, foldl_read] at whole ended
          rw [foldl_read]
          have later := ih next (fun c member => whole c (List.mem_append_left _ member)) ended
          have gapless : none ∉ first := fun gap => absurd (whole none (List.mem_append_right _ gap)) (by simp)
          rw [List.reverse_append, List.filterMap_append]
          cases pending with
          | none =>
              have started : Decoder.start [] b = ⟨first, next⟩ := stepped
              obtain ⟨c, alone, encoded⟩ | ⟨p, opened, encodes⟩ | gap := start_encodes b
              · cases started.symm.trans alone
                refine (congrArg (List.cons b) later).trans ?_
                rw [← List.singleton_append, ← encoded]
                rfl
              · cases started.symm.trans opened
                obtain ⟨tail, v, rest, after, rfl, completes, spelled, rfl⟩ := later
                rw [spelled, Spells, ← List.cons_append, ← encodes tail v completes]
                rfl
              · cases started.symm.trans gap
                simp at gapless
          | some p =>
              by_cases inside : p.low ≤ b ∧ b ≤ p.high
              · by_cases last : p.due = 1
                · rw [step_last _ _ inside last] at stepped
                  cases stepped
                  exact ⟨[b], _, rest, _, rfl, .last inside last, rfl, later⟩
                · rw [step_more _ _ inside last] at stepped
                  cases stepped
                  obtain ⟨tail, v, rest, after, rfl, completes, spelled, rfl⟩ := later
                  exact ⟨b :: tail, v, _, after, rfl, .more inside last completes, spelled, rfl⟩
              · have gap := step_gap inside
                rw [stepped] at gap
                exact absurd gap gapless

theorem toString_eq_some_iff (b : Bytes) (s : String) : b.toString? = some s ↔ b = ofString s := by
  constructor
  · intro decoded
    rw [toString_iff, decode] at decoded
    cases folded : b.foldl Decoder.step ⟨[], none⟩ with
    | mk read pending =>
        rw [folded] at decoded
        cases pending with
        | some p =>
            have gap : none ∈ s.toList.map some := by simp [← decoded]
            simp at gap
        | none =>
            have ended : read.reverse = s.toList.map some := decoded
            have whole : ∀ c ∈ read, c.isSome := by
              rw [← List.reverse_reverse read, ended]
              simp
            have spelled := foldl_spells b none (by rwa [folded]) (by rw [folded])
            rw [folded, ended, List.filterMap_map, Spells] at spelled
            rw [ofString_flatMap, spelled]
            simp
  · rintro rfl
    exact toString_ofString s

theorem ofString_rest {s t : String} {b : Bytes} (whole : ofString s ++ b = ofString t) : ∃ rest, b = ofString rest := by
  have folded := foldl_ofString t []
  rw [← whole, List.foldl_append, foldl_ofString, foldl_read, List.append_nil, List.append_nil,
    Decoder.mk.injEq] at folded
  obtain ⟨read, ended⟩ := folded
  have gapless : ∀ c ∈ (b.foldl Decoder.step ⟨[], none⟩).read, c.isSome := by
    intro c member
    have inside := List.mem_append_left (s.toList.map some).reverse member
    rw [read] at inside
    obtain ⟨d, -, rfl⟩ := List.mem_map.mp (List.mem_reverse.mp inside)
    rfl
  have spelled := foldl_spells b none gapless ended
  rw [Spells] at spelled
  exact ⟨String.ofList _, by rw [ofString_flatMap, String.toList_ofList, ← spelled]⟩

theorem ofString_ended {s : String} {front : Bytes} (ends : ofString s = front ++ [10]) :
    ∃ text, front = ofString text ∧ s = text ++ "\n" := by
  cases List.eq_nil_or_concat s.toList with
  | inl empty =>
      rw [ofString_flatMap, empty] at ends
      simp at ends
  | inr last =>
      obtain ⟨cs, c, split⟩ := last
      rw [List.concat_eq_append] at split
      have whole : s = String.ofList cs ++ String.ofList [c] := by
        rw [← String.ofList_append, ← split, String.ofList_toList]
      rw [ofString_flatMap, split, List.flatMap_append, List.flatMap_singleton] at ends
      have feed : (10 : UInt8) ∈ String.utf8EncodeChar c := by
        have final := congrArg List.getLast? ends
        rw [List.getLast?_append, List.getLast?_concat] at final
        cases last : (String.utf8EncodeChar c).getLast? with
        | none => exact absurd (List.getLast?_eq_none_iff.mp last) (by simp [String.utf8EncodeChar_ne_nil])
        | some b =>
            rw [last, Option.some_or, Option.some.injEq] at final
            exact final ▸ List.mem_of_getLast? last
      have code : c.toNat = 10 := (mem_encodeChar_small (n := 10) (by decide)).mp feed
      have same : c = '\n' := by rw [← Char.ofNat_toNat c, code]
      subst same
      refine ⟨String.ofList cs, ?_, by rw [whole]⟩
      have encoded : String.utf8EncodeChar '\n' = [10] := rfl
      rw [encoded] at ends
      rw [ofString_flatMap, String.toList_ofList]
      exact (List.append_inj_left' ends rfl).symm

end RemoteExec.Bytes

import RemoteExec.Text.Utf8Fault

namespace RemoteExec.Bytes

theorem toList_loop (b : ByteArray) (i : Nat) (done : List UInt8) :
    ByteArray.toList.loop b i done = done.reverse ++ b.data.toList.drop i := by
  fun_induction ByteArray.toList.loop b i done with
  | case1 i done inside ih =>
      have bound : i < b.data.toList.length := by simpa using inside
      rw [ih, List.drop_eq_getElem_cons bound]
      simp [ByteArray.get!, inside]
  | case2 i done outside =>
      rw [List.drop_eq_nil_of_le (by simpa using Nat.le_of_not_lt outside)]
      simp

theorem ofString_flatMap (s : String) : ofString s = s.toList.flatMap String.utf8EncodeChar := by
  rw [ofString, ByteArray.toList, toList_loop, String.toUTF8, ← String.utf8Encode_toList, List.utf8Encode,
    List.data_toByteArray]
  rfl

section Step

variable (read : List (Option Char)) (p : Pending) {b : UInt8}

theorem step_last (inside : p.low ≤ b ∧ b ≤ p.high) (last : p.due = 1) :
    Decoder.step ⟨read, some p⟩ b = ⟨some (Char.ofNat (p.value * 64 + (b.toNat - 0x80))) :: read, none⟩ := by
  simp only [Decoder.step, inside, and_self, if_true, last]

theorem step_more (inside : p.low ≤ b ∧ b ≤ p.high) (more : p.due ≠ 1) :
    Decoder.step ⟨read, some p⟩ b = ⟨read, some ⟨p.due - 1, 0x80, 0xBF, p.value * 64 + (b.toNat - 0x80)⟩⟩ := by
  simp only [Decoder.step, inside, and_self, if_true, more, if_false]

end Step

theorem toNat_small {n : Nat} (small : n < 256) : (UInt8.ofNat n).toNat = n := by
  rw [UInt8.toNat_ofNat']
  omega

theorem inside_small (low high : Nat) {n : Nat} (small : low < 256 ∧ high < 256 ∧ n < 256) (inside : low ≤ n ∧ n ≤ high) :
    UInt8.ofNat low ≤ UInt8.ofNat n ∧ UInt8.ofNat n ≤ UInt8.ofNat high := by
  rw [UInt8.le_iff_toNat_le, UInt8.le_iff_toNat_le, toNat_small small.1, toNat_small small.2.1, toNat_small small.2.2]
  exact inside

theorem start_code (read : List (Option Char)) {n : Nat} (small : n < 256) :
    Decoder.start read (UInt8.ofNat n) =
      if n < 0x80 then ⟨some (Char.ofNat n) :: read, none⟩
      else if 0xC2 ≤ n ∧ n ≤ 0xDF then ⟨read, some ⟨1, 0x80, 0xBF, n - 0xC0⟩⟩
      else if n = 0xE0 then ⟨read, some ⟨2, 0xA0, 0xBF, 0⟩⟩
      else if n = 0xED then ⟨read, some ⟨2, 0x80, 0x9F, 0xD⟩⟩
      else if 0xE1 ≤ n ∧ n ≤ 0xEF then ⟨read, some ⟨2, 0x80, 0xBF, n - 0xE0⟩⟩
      else if n = 0xF0 then ⟨read, some ⟨3, 0x90, 0xBF, 0⟩⟩
      else if n = 0xF4 then ⟨read, some ⟨3, 0x80, 0x8F, 4⟩⟩
      else if 0xF1 ≤ n ∧ n ≤ 0xF3 then ⟨read, some ⟨3, 0x80, 0xBF, n - 0xF0⟩⟩
      else ⟨none :: read, none⟩ := by
  simp only [Decoder.start, UInt8.lt_iff_toNat_lt, UInt8.le_iff_toNat_le, ← UInt8.toNat_inj, toNat_small small,
    UInt8.toNat_ofNat, Nat.reducePow, Nat.reduceMod]

theorem start_three (read : List (Option Char)) {n m : Nat} (lead : 0xE0 ≤ n ∧ n ≤ 0xEF) (tail : 0x80 ≤ m ∧ m ≤ 0xBF)
    (long : n = 0xE0 → 0xA0 ≤ m) (scalar : n = 0xED → m ≤ 0x9F) :
    ∃ low high : UInt8, Decoder.start read (UInt8.ofNat n) = ⟨read, some ⟨2, low, high, n - 0xE0⟩⟩ ∧
      low ≤ UInt8.ofNat m ∧ UInt8.ofNat m ≤ high := by
  rw [start_code read (by omega), if_neg (by omega), if_neg (by omega)]
  by_cases lowest : n = 0xE0
  · rw [if_pos lowest, lowest]
    exact ⟨_, _, rfl, inside_small 0xA0 0xBF (by omega) ⟨long lowest, tail.2⟩⟩
  · rw [if_neg lowest]
    by_cases surrogate : n = 0xED
    · rw [if_pos surrogate, surrogate]
      exact ⟨_, _, rfl, inside_small 0x80 0x9F (by omega) ⟨tail.1, scalar surrogate⟩⟩
    · rw [if_neg surrogate, if_pos (by omega)]
      exact ⟨_, _, rfl, inside_small 0x80 0xBF (by omega) tail⟩

theorem start_four (read : List (Option Char)) {n m : Nat} (lead : 0xF0 ≤ n ∧ n ≤ 0xF4) (tail : 0x80 ≤ m ∧ m ≤ 0xBF)
    (long : n = 0xF0 → 0x90 ≤ m) (scalar : n = 0xF4 → m ≤ 0x8F) :
    ∃ low high : UInt8, Decoder.start read (UInt8.ofNat n) = ⟨read, some ⟨3, low, high, n - 0xF0⟩⟩ ∧
      low ≤ UInt8.ofNat m ∧ UInt8.ofNat m ≤ high := by
  rw [start_code read (by omega), if_neg (by omega), if_neg (by omega), if_neg (by omega), if_neg (by omega),
    if_neg (by omega)]
  by_cases lowest : n = 0xF0
  · rw [if_pos lowest, lowest]
    exact ⟨_, _, rfl, inside_small 0x90 0xBF (by omega) ⟨long lowest, tail.2⟩⟩
  · rw [if_neg lowest]
    by_cases highest : n = 0xF4
    · rw [if_pos highest, highest]
      exact ⟨_, _, rfl, inside_small 0x80 0x8F (by omega) ⟨tail.1, scalar highest⟩⟩
    · rw [if_neg highest, if_pos (by omega)]
      exact ⟨_, _, rfl, inside_small 0x80 0xBF (by omega) tail⟩

theorem two_more (read : List (Option Char)) {value m k : Nat} {low high : UInt8}
    (inside : low ≤ UInt8.ofNat m ∧ UInt8.ofNat m ≤ high) (small : m < 256) (tail : 0x80 ≤ k ∧ k ≤ 0xBF) :
    [UInt8.ofNat m, UInt8.ofNat k].foldl Decoder.step ⟨read, some ⟨2, low, high, value⟩⟩ =
      ⟨some (Char.ofNat ((value * 64 + (m - 0x80)) * 64 + (k - 0x80))) :: read, none⟩ := by
  rw [List.foldl_cons, step_more _ _ inside (by simp), List.foldl_cons,
    step_last _ _ (inside_small 0x80 0xBF (by omega) tail) rfl, List.foldl_nil, toNat_small small, toNat_small (by omega)]

theorem three_more (read : List (Option Char)) {value m k j : Nat} {low high : UInt8}
    (inside : low ≤ UInt8.ofNat m ∧ UInt8.ofNat m ≤ high) (small : m < 256) (tail : 0x80 ≤ k ∧ k ≤ 0xBF)
    (last : 0x80 ≤ j ∧ j ≤ 0xBF) :
    [UInt8.ofNat m, UInt8.ofNat k, UInt8.ofNat j].foldl Decoder.step ⟨read, some ⟨3, low, high, value⟩⟩ =
      ⟨some (Char.ofNat (((value * 64 + (m - 0x80)) * 64 + (k - 0x80)) * 64 + (j - 0x80))) :: read, none⟩ := by
  rw [List.foldl_cons, step_more _ _ inside (by simp), toNat_small small]
  exact two_more read (inside_small 0x80 0xBF (by omega) tail) (by omega) last

-- One character after whatever was read before. Its size tells how many bytes it has, and its first byte which
-- second bytes are left out: those of shorter forms, of surrogates and of what is past the last character.
theorem foldl_encodeChar (c : Char) (read : List (Option Char)) :
    (String.utf8EncodeChar c).foldl Decoder.step ⟨read, none⟩ = ⟨some c :: read, none⟩ := by
  have valid : c.toNat < 0xD800 ∨ 0xDFFF < c.toNat ∧ c.toNat < 0x110000 := c.valid
  have same : Char.ofNat c.toNat = c := Char.ofNat_toNat c
  have code : c.val.toNat = c.toNat := rfl
  have first : ∀ b, Decoder.step ⟨read, none⟩ b = Decoder.start read b := fun _ => rfl
  rw [String.utf8EncodeChar, code]
  generalize c.toNat = v at valid same
  by_cases one : v ≤ 0x7F
  · rw [if_pos one, List.foldl_cons, first, start_code read (by omega), if_pos (by omega), same]
    rfl
  · by_cases two : v ≤ 0x7FF
    · rw [if_neg one, if_pos two, List.foldl_cons, first, start_code read (by omega), if_neg (by omega), if_pos (by omega),
        List.foldl_cons, step_last _ _ (inside_small 0x80 0xBF (by omega) (by omega)) rfl, toNat_small (by omega)]
      have value : (v / 64 % 32 + 192 - 0xC0) * 64 + (v % 64 + 128 - 0x80) = v := by omega
      simp only [List.foldl_nil, value, same]
    · by_cases three : v ≤ 0xFFFF
      · obtain ⟨low, high, started, inside⟩ := start_three read (n := v / 4096 % 16 + 224) (m := v / 64 % 64 + 128)
          (by omega) (by omega) (by omega) (by omega)
        rw [if_neg one, if_neg two, if_pos three, List.foldl_cons, first, started,
          two_more read inside (by omega) (by omega)]
        have value : ((v / 4096 % 16 + 224 - 0xE0) * 64 + (v / 64 % 64 + 128 - 0x80)) * 64 + (v % 64 + 128 - 0x80) = v := by
          omega
        rw [value, same]
      · obtain ⟨low, high, started, inside⟩ := start_four read (n := v / 262144 % 8 + 240) (m := v / 4096 % 64 + 128)
          (by omega) (by omega) (by omega) (by omega)
        rw [if_neg one, if_neg two, if_neg three, List.foldl_cons, first, started,
          three_more read inside (by omega) (by omega) (by omega)]
        have value : (((v / 262144 % 8 + 240 - 0xF0) * 64 + (v / 4096 % 64 + 128 - 0x80)) * 64 +
            (v / 64 % 64 + 128 - 0x80)) * 64 + (v % 64 + 128 - 0x80) = v := by omega
        rw [value, same]

theorem foldl_ofString (s : String) (read : List (Option Char)) :
    (ofString s).foldl Decoder.step ⟨read, none⟩ = ⟨(s.toList.map some).reverse ++ read, none⟩ := by
  rw [ofString_flatMap]
  induction s.toList generalizing read with
  | nil => rfl
  | cons c rest ih =>
      rw [List.flatMap_cons, List.foldl_append, foldl_encodeChar, ih]
      simp

theorem toString_iff (b : Bytes) (s : String) : b.toString? = some s ↔ decode b = s.toList.map some := by
  have known : ∀ cs : List (Option Char), cs.all Option.isSome = true → cs = (cs.filterMap id).map some := by
    intro cs whole
    induction cs with
    | nil => rfl
    | cons c rest ih =>
        cases c with
        | none => simp at whole
        | some c => simpa using ih (by simpa using whole)
  simp only [toString?]
  constructor
  · intro decoded
    split at decoded
    next whole =>
      rw [← Option.some.inj decoded, String.toList_ofList]
      exact known _ whole
    next broken => cases decoded
  · intro decoded
    rw [decoded, if_pos (by simp)]
    simp [List.filterMap_map]

theorem toString_append {b : Bytes} {s : String} (decoded : b.toString? = some s) (t : String) :
    (b ++ ofString t).toString? = some (s ++ t) := by
  rw [toString_iff] at decoded ⊢
  simp only [decode] at decoded
  cases folded : b.foldl Decoder.step ⟨[], none⟩ with
  | mk read pending =>
      rw [folded] at decoded
      cases pending with
      | some p =>
          have gap : none ∈ s.toList.map some := by simp [← decoded]
          simp at gap
      | none =>
          have ended : read.reverse = s.toList.map some := decoded
          simp only [decode, List.foldl_append, folded, foldl_ofString]
          simp [ended]

theorem ofString_append (s t : String) : ofString (s ++ t) = ofString s ++ ofString t := by
  simp [ofString_flatMap]

theorem toString_ofString (s : String) : (ofString s).toString? = some s := by
  rw [toString_iff, decode, foldl_ofString]
  simp

theorem mem_encodeChar_small {c : Char} {n : Nat} (small : n < 0x80) :
    UInt8.ofNat n ∈ String.utf8EncodeChar c ↔ c.toNat = n := by
  have code : c.val.toNat = c.toNat := rfl
  have bound : ∀ m, m < 256 → (UInt8.ofNat n = UInt8.ofNat m ↔ n = m) := by
    intro m fits
    rw [← UInt8.toNat_inj, toNat_small (by omega), toNat_small fits]
  rw [String.utf8EncodeChar, code]
  have valid : c.toNat < 0xD800 ∨ 0xDFFF < c.toNat ∧ c.toNat < 0x110000 := c.valid
  generalize c.toNat = v at valid
  by_cases one : v ≤ 0x7F
  · rw [if_pos one, List.mem_singleton]
    exact (bound v (by omega)).trans eq_comm
  · by_cases two : v ≤ 0x7FF
    · rw [if_neg one, if_pos two]
      simp only [List.mem_cons, List.not_mem_nil, or_false]
      rw [bound _ (by omega), bound _ (by omega)]
      omega
    · by_cases three : v ≤ 0xFFFF
      · rw [if_neg one, if_neg two, if_pos three]
        simp only [List.mem_cons, List.not_mem_nil, or_false]
        rw [bound _ (by omega), bound _ (by omega), bound _ (by omega)]
        omega
      · rw [if_neg one, if_neg two, if_neg three]
        simp only [List.mem_cons, List.not_mem_nil, or_false]
        rw [bound _ (by omega), bound _ (by omega), bound _ (by omega), bound _ (by omega)]
        omega

theorem mem_ofString_small (s : String) {n : Nat} (small : n < 0x80) :
    UInt8.ofNat n ∈ ofString s ↔ Char.ofNat n ∈ s.toList := by
  rw [ofString_flatMap, List.mem_flatMap]
  constructor
  · rintro ⟨c, member, encoded⟩
    rw [← (mem_encodeChar_small small).mp encoded, Char.ofNat_toNat]
    exact member
  · intro member
    refine ⟨_, member, (mem_encodeChar_small small).mpr ?_⟩
    have valid : n.isValidChar := Or.inl (by omega)
    rw [Char.ofNat, dif_pos valid]
    rfl

section Faults

theorem step_read (read : List (Option Char)) (pending : Option Pending) (b : UInt8) :
    Decoder.step ⟨read, pending⟩ b =
      ⟨(Decoder.step ⟨[], pending⟩ b).read ++ read, (Decoder.step ⟨[], pending⟩ b).open?⟩ := by
  have started : ∀ gap, Decoder.start (gap ++ read) b = ⟨(Decoder.start gap b).read ++ read, (Decoder.start gap b).open?⟩ := by
    intro gap
    simp only [Decoder.start]
    repeat' split
    all_goals rfl
  cases pending with
  | none => exact started []
  | some p =>
      simp only [Decoder.step]
      by_cases inside : p.low ≤ b ∧ b ≤ p.high
      · simp only [if_pos inside]
        split <;> rfl
      · simp only [if_neg inside]
        exact started [none]

theorem foldl_read (bytes : Bytes) (read : List (Option Char)) (pending : Option Pending) :
    bytes.foldl Decoder.step ⟨read, pending⟩ =
      ⟨(bytes.foldl Decoder.step ⟨[], pending⟩).read ++ read, (bytes.foldl Decoder.step ⟨[], pending⟩).open?⟩ := by
  induction bytes generalizing read pending with
  | nil => rfl
  | cons b rest ih =>
      rw [List.foldl_cons, List.foldl_cons, step_read read pending b]
      cases Decoder.step ⟨[], pending⟩ b with
      | mk first next =>
          rw [ih, ih first]
          simp

theorem step_gap {p : Pending} {b : UInt8} (outside : ¬ (p.low ≤ b ∧ b ≤ p.high)) :
    none ∈ (Decoder.step ⟨[], some p⟩ b).read := by
  simp only [Decoder.step, if_neg outside, Decoder.start]
  repeat' split
  all_goals simp

theorem faultFrom_none (pending : Option Pending) (start pos : Nat) {bytes : Bytes}
    (whole : ∀ c ∈ (bytes.foldl Decoder.step ⟨[], pending⟩).read, c.isSome)
    (ended : (bytes.foldl Decoder.step ⟨[], pending⟩).open? = none) : faultFrom pending start pos bytes = none := by
  induction bytes generalizing pending start pos with
  | nil => simp_all [faultFrom]
  | cons b rest ih =>
      rw [List.foldl_cons] at whole ended
      cases stepped : Decoder.step ⟨[], pending⟩ b with
      | mk first next =>
          rw [stepped, foldl_read] at whole ended
          have read : first.all Option.isSome = true :=
            List.all_eq_true.mpr fun c member => whole c (List.mem_append_right _ member)
          have later : ∀ start pos, faultFrom next start pos rest = none := fun start pos =>
            ih next start pos (fun c member => whole c (List.mem_append_left _ member)) ended
          cases pending with
          | none => simp only [faultFrom, stepped, read, if_true, later]
          | some p =>
              by_cases inside : p.low ≤ b ∧ b ≤ p.high
              · simp only [faultFrom, stepped, if_pos inside, later]
              · have gap := step_gap inside
                rw [stepped] at gap
                exact absurd (whole none (List.mem_append_right _ gap)) (by simp)

theorem fault_ofString (s : String) : (ofString s).fault? = none := by
  refine faultFrom_none none 0 0 ?_ ?_
  · rw [foldl_ofString]
    simp
  · rw [foldl_ofString]

end Faults

end RemoteExec.Bytes

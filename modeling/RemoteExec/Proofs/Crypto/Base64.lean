import RemoteExec.Crypto.Base64

namespace RemoteExec.Base64

theorem digit_letter {n : Nat} (small : n < 64) : digit? (letter n) = some n := by
  have table : ∀ n < 64, digit? (letter n) = some n := by decide
  exact table n small

theorem letter_filling {n : Nat} (small : n < 64) : letter n ≠ '=' := by
  have table : ∀ n < 64, letter n ≠ '=' := by decide
  exact table n small

theorem byte_bound (b : UInt8) : b.toNat < 256 := UInt8.toNat_lt b

theorem byte_again {n : Nat} {b : UInt8} (same : n = b.toNat) : UInt8.ofNat n = b := by
  rw [same, UInt8.ofNat_toNat]

theorem encodePadded_three (a b c : UInt8) (rest : Bytes) :
    (encodePadded (a :: b :: c :: rest)).toList =
      letter (a.toNat / 4) :: letter (a.toNat % 4 * 16 + b.toNat / 16) :: letter (b.toNat % 16 * 4 + c.toNat / 64) ::
        letter (c.toNat % 64) :: (encodePadded rest).toList := by
  have bounds := And.intro (byte_bound a) (And.intro (byte_bound b) (byte_bound c))
  have first : (a.toNat * 65536 + b.toNat * 256 + c.toNat) / 262144 = a.toNat / 4 := by omega
  have second : (a.toNat * 65536 + b.toNat * 256 + c.toNat) / 4096 % 64 = a.toNat % 4 * 16 + b.toNat / 16 := by omega
  have third : (a.toNat * 65536 + b.toNat * 256 + c.toNat) / 64 % 64 = b.toNat % 16 * 4 + c.toNat / 64 := by omega
  have fourth : (a.toNat * 65536 + b.toNat * 256 + c.toNat) % 64 = c.toNat % 64 := by omega
  have filling : ∀ size, (4 - (size + 4) % 4) % 4 = (4 - size % 4) % 4 := by omega
  simp only [encodePadded, encodeList, String.toList_ofList, first, second, third, fourth, List.length_cons, filling,
    List.cons_append]

theorem encodePadded_two (a b : UInt8) :
    (encodePadded [a, b]).toList =
      [letter (a.toNat / 4), letter (a.toNat % 4 * 16 + b.toNat / 16), letter (b.toNat % 16 * 4), '='] := by
  have bounds := And.intro (byte_bound a) (byte_bound b)
  have first : (a.toNat * 1024 + b.toNat * 4) / 4096 = a.toNat / 4 := by omega
  have second : (a.toNat * 1024 + b.toNat * 4) / 64 % 64 = a.toNat % 4 * 16 + b.toNat / 16 := by omega
  have third : (a.toNat * 1024 + b.toNat * 4) % 64 = b.toNat % 16 * 4 := by omega
  simp [encodePadded, encodeList, first, second, third]

theorem encodePadded_one (a : UInt8) :
    (encodePadded [a]).toList = [letter (a.toNat / 4), letter (a.toNat % 4 * 16), '=', '='] := by
  simp [encodePadded, encodeList, List.replicate_succ]

theorem decodePadded_encodePadded (b : Bytes) : decodePadded? (encodePadded b).toList = some b := by
  induction b using encodeList.induct with
  | case1 a b c rest ih =>
      have bounds := And.intro (byte_bound a) (And.intro (byte_bound b) (byte_bound c))
      have plain : letter (c.toNat % 64) ≠ '=' := letter_filling (by omega)
      rw [encodePadded_three, decodePadded?.eq_4 _ _ _ _ _ (fun _ filled _ => plain filled) (fun filled _ => plain filled),
        digit_letter (by omega), digit_letter (by omega), digit_letter (by omega), digit_letter (by omega), ih]
      simp only [Option.bind_eq_bind, Option.bind_some]
      rw [byte_again (b := a) (by omega), byte_again (b := b) (by omega), byte_again (b := c) (by omega)]
  | case2 a b =>
      have bounds := And.intro (byte_bound a) (byte_bound b)
      have plain : letter (b.toNat % 16 * 4) ≠ '=' := letter_filling (by omega)
      rw [encodePadded_two, decodePadded?.eq_3 _ _ _ plain, digit_letter (by omega), digit_letter (by omega),
        digit_letter (by omega)]
      simp only [Option.bind_eq_bind, Option.bind_some]
      rw [if_pos (by omega), byte_again (b := a) (by omega), byte_again (b := b) (by omega)]
  | case3 a =>
      have bound := byte_bound a
      rw [encodePadded_one, decodePadded?.eq_2, digit_letter (by omega), digit_letter (by omega)]
      simp only [Option.bind_eq_bind, Option.bind_some]
      rw [if_pos (by omega), byte_again (b := a) (by omega)]
  | case4 => rfl

theorem encodePadded_inj {one other : Bytes} (same : encodePadded one = encodePadded other) : one = other := by
  have decoded := decodePadded_encodePadded one
  rw [same, decodePadded_encodePadded] at decoded
  exact (Option.some.inj decoded).symm

end RemoteExec.Base64

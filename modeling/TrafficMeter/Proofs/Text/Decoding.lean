import TrafficMeter.Text.Base64
import TrafficMeter.Text.Bytes

/-!
# What can be decoded

Base64 is read strictly: nothing can be read but what is written for some bytes, and for other
bytes something else is written. The same holds of bytes that are read as text.

Main statements: `decode_eq_some_iff` and `ofBytes?_eq_some_iff`.
-/

namespace TrafficMeter.Text

namespace Base64

theorem letter_of_sextet? {c : Char} {x : Nat} (h : sextet? c = some x) :
    x < 64 ∧ letter x = c := by
  unfold sextet? at h
  simp only at h
  have back : Char.ofNat c.toNat = c := Char.ofNat_toNat c
  split at h
  · cases h
    rw [letter, if_pos (by omega), Nat.sub_add_cancel (by omega)]
    exact ⟨by omega, back⟩
  · split at h
    · cases h
      rw [letter, if_neg (by omega), if_pos (by omega), Nat.sub_add_cancel (by omega)]
      exact ⟨by omega, back⟩
    · split at h
      · cases h
        rw [letter, if_neg (by omega), if_neg (by omega), if_pos (by omega),
          Nat.add_sub_cancel]
        exact ⟨by omega, back⟩
      · split at h
        · next plus =>
            cases h
            exact ⟨by omega, plus.symm⟩
        · split at h
          · next slash =>
              cases h
              exact ⟨by omega, slash.symm⟩
          · cases h

theorem toNat_ofNat_of_lt {n : Nat} (h : n < 256) : (UInt8.ofNat n).toNat = n :=
  UInt8.toNat_ofNat_of_lt' h

theorem encode_of_decodeOne {a b : Char} {bs : List UInt8} (h : decodeOne a b = some bs) :
    encode bs = [a, b, '=', '='] := by
  simp only [decodeOne, Option.bind_eq_bind, Option.bind_eq_some_iff] at h
  obtain ⟨x, hx, y, hy, h⟩ := h
  obtain ⟨xSmall, rfl⟩ := letter_of_sextet? hx
  obtain ⟨ySmall, rfl⟩ := letter_of_sextet? hy
  split at h
  · cases h
    rw [encode, toNat_ofNat_of_lt (by omega)]
    have first : (x * 4 + y / 16) / 4 = x := by omega
    have second : (x * 4 + y / 16) % 4 * 16 = y := by omega
    rw [first, second]
  · cases h

theorem encode_of_decodeTwo {a b c : Char} {bs : List UInt8} (h : decodeTwo a b c = some bs) :
    encode bs = [a, b, c, '='] := by
  simp only [decodeTwo, Option.bind_eq_bind, Option.bind_eq_some_iff] at h
  obtain ⟨x, hx, y, hy, z, hz, h⟩ := h
  obtain ⟨xSmall, rfl⟩ := letter_of_sextet? hx
  obtain ⟨ySmall, rfl⟩ := letter_of_sextet? hy
  obtain ⟨zSmall, rfl⟩ := letter_of_sextet? hz
  split at h
  · cases h
    rw [encode, toNat_ofNat_of_lt (by omega), toNat_ofNat_of_lt (by omega)]
    have first : (x * 4 + y / 16) / 4 = x := by omega
    have second : (x * 4 + y / 16) % 4 * 16 + (y % 16 * 16 + z / 4) / 16 = y := by omega
    have third : (y % 16 * 16 + z / 4) % 16 * 4 = z := by omega
    rw [first, second, third]
  · cases h

theorem encode_of_decodeThree {a b c d : Char} {bs : List UInt8}
    (h : decodeThree a b c d = some bs) (more : List UInt8) :
    encode (bs ++ more) = a :: b :: c :: d :: encode more := by
  simp only [decodeThree, Option.bind_eq_bind, Option.bind_eq_some_iff] at h
  obtain ⟨x, hx, y, hy, z, hz, w, hw, h⟩ := h
  obtain ⟨xSmall, rfl⟩ := letter_of_sextet? hx
  obtain ⟨ySmall, rfl⟩ := letter_of_sextet? hy
  obtain ⟨zSmall, rfl⟩ := letter_of_sextet? hz
  obtain ⟨wSmall, rfl⟩ := letter_of_sextet? hw
  cases h
  rw [List.cons_append, List.cons_append, List.cons_append, List.nil_append, encode,
    toNat_ofNat_of_lt (by omega), toNat_ofNat_of_lt (by omega), toNat_ofNat_of_lt (by omega)]
  have first : (x * 4 + y / 16) / 4 = x := by omega
  have second : (x * 4 + y / 16) % 4 * 16 + (y % 16 * 16 + z / 4) / 16 = y := by omega
  have third : (y % 16 * 16 + z / 4) % 16 * 4 + (z % 4 * 64 + w) / 64 = z := by omega
  have fourth : (z % 4 * 64 + w) % 64 = w := by omega
  rw [first, second, third, fourth]

/-- What can be read is what is written for the bytes that are read. -/
theorem decode_eq_some_iff {cs : List Char} {bs : List UInt8} :
    decode cs = some bs ↔ cs = encode bs := by
  constructor
  · intro h
    fun_induction decode cs generalizing bs with
    | case1 =>
        cases h
        rfl
    | case2 a b => exact (encode_of_decodeOne h).symm
    | case3 a b c _ => exact (encode_of_decodeTwo h).symm
    | case4 => cases h
    | case5 a b c d rest _ ih =>
        simp only [Option.bind_eq_bind, Option.bind_eq_some_iff, Option.some.injEq] at h
        obtain ⟨group, hg, tail, ht, rfl⟩ := h
        rw [encode_of_decodeThree hg, ← ih ht]
    | case6 => cases h
  · rintro rfl
    exact decode_encode bs

end Base64

/-- Bytes that are read as a text are the bytes of that text. -/
theorem ofBytes?_eq_some_iff {bs : List UInt8} {s : String} :
    ofBytes? bs = some s ↔ bs = bytes s := by
  constructor
  · intro h
    rw [ofBytes?, String.fromUTF8?] at h
    split at h
    · cases h
      simp [bytes, String.fromUTF8]
    · cases h
  · rintro rfl
    exact ofBytes?_bytes s

end TrafficMeter.Text

import TrafficMeter.Text.Bytes

/-!
# Percent decoding

A percent sign with two hexadecimal digits stands for a byte; a percent sign without them, and
every other byte, stands for itself.  Main statement: `decodeBytes_of_no_percent`, that bytes
without a percent sign are kept.
-/

namespace TrafficMeter.Text.Percent

/-- The value of a hexadecimal digit in either case. -/
def hexValue? (b : UInt8) : Option UInt8 :=
  if 48 ≤ b ∧ b ≤ 57 then some (b - 48)
  else if 65 ≤ b ∧ b ≤ 70 then some (b - 55)
  else if 97 ≤ b ∧ b ≤ 102 then some (b - 87)
  else none

/-- Replaces every encoded byte. -/
def decodeBytes : List UInt8 → List UInt8
  | 37 :: hi :: lo :: rest =>
      match hexValue? hi, hexValue? lo with
      | some h, some l => (h * 16 + l) :: decodeBytes rest
      | _, _ => 37 :: decodeBytes (hi :: lo :: rest)
  | b :: rest => b :: decodeBytes rest
  | [] => []
termination_by bs => bs.length

/-- The text that a segment stands for, if its bytes are valid UTF-8. -/
def decode? (s : String) : Option String := ofBytes? (decodeBytes (bytes s))

/-- Bytes without a percent sign are kept. -/
theorem decodeBytes_of_no_percent (bs : List UInt8) (h : 37 ∉ bs) : decodeBytes bs = bs := by
  induction bs with
  | nil => simp [decodeBytes]
  | cons b rest ih =>
      have hb : b ≠ 37 := fun hb => h (hb ▸ List.mem_cons_self)
      have hr := ih fun hm => h (List.mem_cons_of_mem _ hm)
      rw [decodeBytes, hr]
      rintro hi lo tail rfl
      exact absurd rfl hb

end TrafficMeter.Text.Percent

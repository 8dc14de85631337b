/-!
# Base64

Bytes written in the 64-letter alphabet of letters, digits, plus and slash, four letters for
three bytes, with equals signs filling the last group.  Reading is strict: the text must be cut
into whole groups, the filling must be there, and the bits that the filling leaves unused must
be zero.  Main statement: `decode_encode`, that written bytes read back.
-/

namespace TrafficMeter.Text.Base64

/-- The letter for six bits. -/
def letter (n : Nat) : Char :=
  if n < 26 then Char.ofNat (n + 65)
  else if n < 52 then Char.ofNat (n + 71)
  else if n < 62 then Char.ofNat (n - 4)
  else if n = 62 then '+'
  else '/'

/-- The six bits of a letter. -/
def sextet? (c : Char) : Option Nat :=
  let n := c.toNat
  if 65 ≤ n ∧ n ≤ 90 then some (n - 65)
  else if 97 ≤ n ∧ n ≤ 122 then some (n - 71)
  else if 48 ≤ n ∧ n ≤ 57 then some (n + 4)
  else if c = '+' then some 62
  else if c = '/' then some 63
  else none

/-- Writes bytes, three at a time. -/
def encode : List UInt8 → List Char
  | [] => []
  | [a] =>
      [letter (a.toNat / 4), letter (a.toNat % 4 * 16), '=', '=']
  | [a, b] =>
      [letter (a.toNat / 4), letter (a.toNat % 4 * 16 + b.toNat / 16),
        letter (b.toNat % 16 * 4), '=']
  | a :: b :: c :: rest =>
      letter (a.toNat / 4) :: letter (a.toNat % 4 * 16 + b.toNat / 16)
        :: letter (b.toNat % 16 * 4 + c.toNat / 64) :: letter (c.toNat % 64) :: encode rest

/-- Reads a last group that stands for one byte. -/
def decodeOne (a b : Char) : Option (List UInt8) := do
  let x ← sextet? a
  let y ← sextet? b
  if y % 16 = 0 then some [UInt8.ofNat (x * 4 + y / 16)] else none

/-- Reads a last group that stands for two bytes. -/
def decodeTwo (a b c : Char) : Option (List UInt8) := do
  let x ← sextet? a
  let y ← sextet? b
  let z ← sextet? c
  if z % 4 = 0 then
    some [UInt8.ofNat (x * 4 + y / 16), UInt8.ofNat (y % 16 * 16 + z / 4)]
  else none

/-- Reads a group without filling. -/
def decodeThree (a b c d : Char) : Option (List UInt8) := do
  let x ← sextet? a
  let y ← sextet? b
  let z ← sextet? c
  let w ← sextet? d
  some [UInt8.ofNat (x * 4 + y / 16), UInt8.ofNat (y % 16 * 16 + z / 4),
    UInt8.ofNat (z % 4 * 64 + w)]

/-- Reads groups of four letters; filling is allowed in the last one only. -/
def decode : List Char → Option (List UInt8)
  | [] => some []
  | a :: b :: c :: d :: rest =>
      if d = '=' then
        if rest = [] then
          if c = '=' then decodeOne a b else decodeTwo a b c
        else none
      else do
        let group ← decodeThree a b c d
        let tail ← decode rest
        some (group ++ tail)
  | _ => none

theorem sextet?_letter : ∀ n : Nat, n < 64 → sextet? (letter n) = some n := by decide

theorem letter_ne_filling : ∀ n : Nat, n < 64 → letter n ≠ '=' := by decide

/-- Written bytes read back. -/
theorem decode_encode (bs : List UInt8) : decode (encode bs) = some bs := by
  fun_induction encode bs with
  | case1 => rfl
  | case2 a =>
      have ha := a.toNat_lt
      simp only [decode, decodeOne, if_true]
      rw [sextet?_letter _ (by omega), sextet?_letter _ (by omega)]
      simp only [Option.bind_eq_bind, Option.bind_some]
      rw [if_pos (by omega), show a.toNat / 4 * 4 + a.toNat % 4 * 16 / 16 = a.toNat by omega]
      simp
  | case3 a b =>
      have ha := a.toNat_lt
      have hb := b.toNat_lt
      simp only [decode, decodeTwo, if_true]
      rw [if_neg (letter_ne_filling _ (by omega)), sextet?_letter _ (by omega),
        sextet?_letter _ (by omega), sextet?_letter _ (by omega)]
      simp only [Option.bind_eq_bind, Option.bind_some]
      rw [if_pos (by omega),
        show a.toNat / 4 * 4 + (a.toNat % 4 * 16 + b.toNat / 16) / 16 = a.toNat by omega,
        show (a.toNat % 4 * 16 + b.toNat / 16) % 16 * 16 + b.toNat % 16 * 4 / 4 = b.toNat by
          omega]
      simp
  | case4 a b c rest ih =>
      have ha := a.toNat_lt
      have hb := b.toNat_lt
      have hc := c.toNat_lt
      simp only [decode, decodeThree]
      rw [if_neg (letter_ne_filling _ (by omega)), sextet?_letter _ (by omega),
        sextet?_letter _ (by omega), sextet?_letter _ (by omega), sextet?_letter _ (by omega), ih]
      simp only [Option.bind_eq_bind, Option.bind_some]
      rw [show a.toNat / 4 * 4 + (a.toNat % 4 * 16 + b.toNat / 16) / 16 = a.toNat by omega,
        show (a.toNat % 4 * 16 + b.toNat / 16) % 16 * 16
          + (b.toNat % 16 * 4 + c.toNat / 64) / 4 = b.toNat by omega,
        show (b.toNat % 16 * 4 + c.toNat / 64) % 4 * 64 + c.toNat % 64 = c.toNat by omega]
      simp

end TrafficMeter.Text.Base64

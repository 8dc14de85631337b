import TrafficMeter.Json.Cursor
import TrafficMeter.Text.Bytes

/-!
# Strings in data texts

A string ends at the next plain double quote.  A backslash starts an escape: a letter for one of
eight characters, or four hexadecimal digits for a unit of 16 bits, where a leading surrogate must
be followed by an escaped trailing one.  Controls may not stand in a string.
-/

namespace TrafficMeter.Json

namespace Strings

/-- The value of a hexadecimal digit. -/
def hexDigit? (b : UInt8) : Option Nat :=
  if 48 ≤ b ∧ b ≤ 57 then some (b.toNat - 48)
  else if 65 ≤ b ∧ b ≤ 70 then some (b.toNat - 55)
  else if 97 ≤ b ∧ b ≤ 102 then some (b.toNat - 87)
  else none

/-- Reads the four digits of a unit. -/
def unit (c : Cursor) : Except Flaw (Nat × Cursor) :=
  match c.rest with
  | h :: i :: j :: k :: rest =>
      let c : Cursor := ⟨rest, c.offset + 4⟩
      match hexDigit? h, hexDigit? i, hexDigit? j, hexDigit? k with
      | some h, some i, some j, some k => .ok (((h * 16 + i) * 16 + j) * 16 + k, c)
      | _, _, _, _ => .error (c.here .invalidEscape)
  | rest => .error { fault := .endInString, offset := c.offset + rest.length }

/-- Whether a unit is a leading surrogate. -/
def isLeading (n : Nat) : Bool := decide (0xD800 ≤ n) && decide (n ≤ 0xDBFF)

/-- Whether a unit is a trailing surrogate. -/
def isTrailing (n : Nat) : Bool := decide (0xDC00 ≤ n) && decide (n ≤ 0xDFFF)

/-- Passes a byte that must come next after a leading surrogate. -/
def expectByte (b : UInt8) (c : Cursor) : Except Flaw Cursor :=
  match c.peek? with
  | none => .error (c.here .endInString)
  | some d => if d = b then .ok c.skip else .error (c.skip.here .unfinishedSurrogate)

/-- Reads a character written by its units, after the letter that announces them. -/
def unitEscape (c : Cursor) : Except Flaw (Char × Cursor) := do
  let (n, c) ← unit c
  if isTrailing n then .error (c.here .loneSurrogate)
  else if isLeading n then do
    let c ← expectByte 92 c
    let c ← expectByte 117 c
    let (m, c) ← unit c
    if isTrailing m then .ok (Char.ofNat ((n - 0xD800) * 0x400 + (m - 0xDC00) + 0x10000), c)
    else .error (c.here .loneSurrogate)
  else .ok (Char.ofNat n, c)

/-- The character that a letter stands for after a backslash. -/
def simpleEscape? (b : UInt8) : Option Char :=
  if b = 34 then some '"'
  else if b = 92 then some '\\'
  else if b = 47 then some '/'
  else if b = 98 then some '\x08'
  else if b = 102 then some '\x0c'
  else if b = 110 then some '\n'
  else if b = 114 then some '\r'
  else if b = 116 then some '\t'
  else none

/-- Reads an escape after its backslash. -/
def escape (c : Cursor) : Except Flaw (Char × Cursor) :=
  match c.peek? with
  | none => .error (c.here .endInString)
  | some b =>
      if b = 117 then unitEscape c.skip
      else
        match simpleEscape? b with
        | some d => .ok (d, c.skip)
        | none => .error (c.skip.here .invalidEscape)

/-- Reads the bytes of a string after its opening quote.  Fuel of the bytes left is enough. -/
def octets : Nat → List UInt8 → Cursor → Except Flaw (List UInt8 × Cursor)
  | 0, _, c => .error (c.here .endInString)
  | fuel + 1, before, c =>
      match c.peek? with
      | none => .error (c.here .endInString)
      | some b =>
          if b = 34 then .ok (before.reverse, c.skip)
          else if b = 92 then do
            let (d, c) ← escape c.skip
            octets fuel ((Text.bytes (String.singleton d)).reverse ++ before) c
          else if b < 32 then .error (c.skip.here .controlCharacter)
          else octets fuel (b :: before) c.skip

/-- Reads a string after its opening quote. -/
def read (c : Cursor) : Except Flaw (String × Cursor) := do
  let (bs, c) ← octets (c.rest.length + 1) [] c
  .ok ((Text.ofBytes? bs).getD "", c)

end Strings

end TrafficMeter.Json

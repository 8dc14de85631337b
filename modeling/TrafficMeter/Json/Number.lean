import TrafficMeter.Decimal.Numeral
import TrafficMeter.Json.Cursor
import TrafficMeter.Json.Value

/-!
# Numbers in data texts

A number without fraction and exponent is an integer if it fits into 64 bits; minus zero and all
other numbers are floats.  A float is computed from the first digits that fit into 64 bits and a
power of ten in one multiplication or division, so it may differ in the last place from the
number nearest to the decimal.
-/

namespace TrafficMeter.Json

-- Powers are the core library's, also where algebra brings another instance into scope.
attribute [local instance (high)] instPowNat

namespace Number

/-- A digit. -/
def isDigit (b : UInt8) : Bool := decide (48 ≤ b) && decide (b ≤ 57)

/-- The value of a digit. -/
def digit (b : UInt8) : Nat := b.toNat - 48

/-- The greatest exponent that is counted. -/
def maxExponent : Nat := 2 ^ (31 : Nat) - 1

/-- The greatest power of ten that is a finite float. -/
def maxPower : Nat := 308

/-- Scales a number by a power of ten; there is none if the result is infinite.  Fuel bounds the
divisions by the greatest power. -/
def scale : Nat → Float → Int → Option Float
  | 0, f, _ => some f
  | fuel + 1, f, exponent =>
      if exponent.natAbs ≤ maxPower then
        let power := Float.ofScientific 1 false exponent.natAbs
        if 0 ≤ exponent then
          let g := f * power
          if g.isInf then none else some g
        else some (f / power)
      else if f == 0 then some f
      else if 0 ≤ exponent then none
      else scale fuel (f / Float.ofScientific 1 false maxPower) (exponent + maxPower)

/-- A float from its sign, significand and power of ten. -/
def float (negative : Bool) (significand : Nat) (exponent : Int) (c : Cursor) :
    Except Flaw (Value × Cursor) :=
  match scale 8 (Float.ofNat significand) exponent with
  | some f => .ok (.float (if negative then -f else f), c)
  | none => .error (c.here .numberOutOfRange)

/-- Reads the further digits of an exponent; the flag tells that it grew beyond all bounds, with
the rest of its digits unread. -/
def exponentDigits (exponent offset : Nat) : List UInt8 → Nat × Bool × Cursor
  | [] => (exponent, false, ⟨[], offset⟩)
  | b :: rest =>
      if isDigit b then
        let next := exponent * 10 + digit b
        if maxExponent < next then (exponent, true, ⟨rest, offset + 1⟩)
        else exponentDigits next (offset + 1) rest
      else (exponent, false, ⟨b :: rest, offset⟩)

/-- Reads an exponent whose mark comes next. -/
def exponent (negative : Bool) (significand : Nat) (start : Int) (c : Cursor) :
    Except Flaw (Value × Cursor) :=
  let c := c.skip
  let (down, c) := match c.peek? with
    | some 43 => (false, c.skip)
    | some 45 => (true, c.skip)
    | _ => (false, c)
  match c.rest with
  | [] => .error (c.here .endInValue)
  | b :: rest =>
      if isDigit b then
        let (e, beyond, c) := exponentDigits (digit b) (c.offset + 1) rest
        if beyond then
          if significand ≠ 0 ∧ !down then .error (c.here .numberOutOfRange)
          else .ok (.float (if negative then -0.0 else 0.0), c.skipWhile isDigit)
        else float negative significand (if down then start - e else start + e) c
      else .error (c.skip.here .invalidNumber)

/-- Ends a float: an exponent may follow. -/
def finish (negative : Bool) (significand : Nat) (e : Int) (c : Cursor) :
    Except Flaw (Value × Cursor) :=
  match c.peek? with
  | some 101 | some 69 => exponent negative significand e c
  | _ => float negative significand e c

/-- Reads digits into a significand as long as it fits; the last part of the answer counts them. -/
def significandDigits (significand offset count : Nat) : List UInt8 → Nat × Nat × Cursor
  | [] => (significand, count, ⟨[], offset⟩)
  | b :: rest =>
      if isDigit b ∧ significand * 10 + digit b ≤ Decimal.maxNatural64 then
        significandDigits (significand * 10 + digit b) (offset + 1) (count + 1) rest
      else (significand, count, ⟨b :: rest, offset⟩)

/-- Reads a fraction whose point comes next; digits that no longer fit are passed over. -/
def fraction (negative : Bool) (significand : Nat) (start : Int) (c : Cursor) :
    Except Flaw (Value × Cursor) :=
  let c := c.skip
  if (c.peek?).any isDigit then
    let (significand, count, c) := significandDigits significand c.offset 0 c.rest
    finish negative significand (start - count) (c.skipWhile isDigit)
  else .error (c.ahead (if c.rest = [] then .endInValue else .invalidNumber))

/-- Reads what follows the digits of an integer: nothing, a fraction or an exponent. -/
def afterInteger (negative : Bool) (significand : Nat) (c : Cursor) :
    Except Flaw (Value × Cursor) :=
  match c.peek? with
  | some 46 => fraction negative significand 0 c
  | some 101 | some 69 => exponent negative significand 0 c
  | _ =>
      if !negative then .ok (.integer significand, c)
      else if significand = 0 ∨ 2 ^ (63 : Nat) < significand then
        .ok (.float (-(Float.ofNat significand)), c)
      else .ok (.integer (-significand), c)

/-- Reads what follows an integer with more digits than fit. -/
def afterLongInteger (negative : Bool) (significand : Nat) (c : Cursor) :
    Except Flaw (Value × Cursor) :=
  let more := (c.rest.takeWhile isDigit).length
  let c := c.skipWhile isDigit
  match c.peek? with
  | some 46 => fraction negative significand more c
  | _ => finish negative significand more c

/-- Reads a number after its sign. -/
def read (negative : Bool) (c : Cursor) : Except Flaw (Value × Cursor) :=
  match c.rest with
  | [] => .error (c.here .endInValue)
  | b :: rest =>
      if b = 48 then
        if (c.skip.peek?).any isDigit then .error (c.skip.ahead .invalidNumber)
        else afterInteger negative 0 c.skip
      else if isDigit b then
        let (significand, _, c) := significandDigits (digit b) (c.offset + 1) 0 rest
        if (c.peek?).any isDigit then afterLongInteger negative significand c
        else afterInteger negative significand c
      else .error (c.skip.here .invalidNumber)

end Number

end TrafficMeter.Json

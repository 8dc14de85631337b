/-!
# Binary numbers of double precision

A finite number is a sign, a significand below `2^53` and a power of two, counted in units of
`2^(-1074)`, the least positive number.  So the value of `finite false s p` is
`s * 2^p` units, and every question about finite numbers is one about naturals.

Main statements: `Binary.roundUnits_of_lt`, that a small whole number of units is kept, and
`nearestEven_exact`, that rounding keeps an exact quotient.
-/

namespace TrafficMeter.Decimal

-- Powers are the core library's, also where algebra brings another instance into scope.
attribute [local instance (high)] instPowNat

/-- A number of double precision. -/
inductive Binary where
  | nan
  | infinite (negative : Bool)
  | finite (negative : Bool) (significand power : Nat)
deriving DecidableEq, Repr

/-- The quotient of two naturals rounded to the nearest natural, a half to the even one. -/
def nearestEven (num den : Nat) : Nat :=
  let q := num / den
  let rest := 2 * (num % den)
  if rest < den then q
  else if rest = den then q + q % 2
  else q + 1

/-- Rounding keeps an exact quotient. -/
theorem nearestEven_exact (n : Nat) {den : Nat} (h : 0 < den) : nearestEven (n * den) den = n := by
  simp [nearestEven, Nat.mul_div_cancel _ h, h]

namespace Binary

/-- The number of units of `2^(-1074)` in one. -/
def unitsInOne : Nat := 2 ^ (1074 : Nat)

/-- The least power of two at which so many units fit into a significand. -/
def powerFor (units : Nat) : Nat := units.log2 - 52

/-- The number nearest to `num / den` units, infinite when the exponents are exhausted. -/
def roundUnits (negative : Bool) (num den : Nat) : Binary :=
  let power := powerFor (num / den)
  let significand := nearestEven num (den * 2 ^ power)
  let (significand, power) :=
    if significand = 2 ^ (53 : Nat) then (2 ^ (52 : Nat), power + 1) else (significand, power)
  if 2045 < power then infinite negative else finite negative significand power

/-- The number nearest to `num / den`. -/
def ofRatio (negative : Bool) (num den : Nat) : Binary :=
  roundUnits negative (num * unitsInOne) den

/-- The number nearest to an integer. -/
def ofInt (i : Int) : Binary := ofRatio (i < 0) i.natAbs 1

/-- Reads the sign, exponent and fraction fields of a word. -/
def ofBits (word : UInt64) : Binary :=
  let negative := 2 ^ (63 : Nat) ≤ word.toNat
  let exponent := word.toNat / 2 ^ (52 : Nat) % 2 ^ (11 : Nat)
  let fraction := word.toNat % 2 ^ (52 : Nat)
  if exponent = 2047 then if fraction = 0 then infinite negative else nan
  else if exponent = 0 then finite negative fraction 0
  else finite negative (2 ^ (52 : Nat) + fraction) (exponent - 1)

/-- The word that holds a number. -/
def toBits : Binary → UInt64
  | nan => UInt64.ofNat (2047 * 2 ^ (52 : Nat) + 2 ^ (51 : Nat))
  | infinite negative => UInt64.ofNat (signWord negative + 2047 * 2 ^ (52 : Nat))
  | finite negative s p =>
      if s < 2 ^ (52 : Nat) then UInt64.ofNat (signWord negative + s)
      else UInt64.ofNat (signWord negative + (p + 1) * 2 ^ (52 : Nat) + (s - 2 ^ (52 : Nat)))
where
  /-- The sign bit. -/
  signWord (negative : Bool) : Nat := if negative then 2 ^ (63 : Nat) else 0

/-- The parts of a machine number. -/
def ofFloat (x : Float) : Binary := ofBits x.toBits

/-- The machine number with these parts. -/
def toFloat (x : Binary) : Float := Float.ofBits x.toBits

/-- The natural nearest to a number, a half rounded up; negative numbers and those that are no
numbers give zero, and what exceeds the limit gives the limit. -/
def toNatAtMost (limit : Nat) : Binary → Nat
  | nan => 0
  | infinite negative => if negative then 0 else limit
  | finite negative s p =>
      if negative then 0
      else min limit ((2 * (s * 2 ^ p) + unitsInOne) / (2 * unitsInOne))

/-- A number of units that fits into a significand is kept as it is. -/
theorem roundUnits_of_lt (negative : Bool) {n : Nat} (h : n < 2 ^ (53 : Nat)) :
    roundUnits negative n 1 = finite negative n 0 := by
  have hp : powerFor n = 0 := by
    unfold powerFor
    by_cases h0 : n = 0
    · simp [h0]
    · have := (Nat.log2_lt h0).mpr h
      omega
  have hs : nearestEven n 1 = n := by
    simpa using nearestEven_exact n Nat.one_pos
  have hn : n ≠ 9007199254740992 := by
    intro e
    exact absurd h (by omega)
  simp [roundUnits, hp, hs, hn]

end Binary

end TrafficMeter.Decimal

import TrafficMeter.Decimal.Binary

/-!
# The shortest decimal that reads back

Of the decimals that round to a given finite number the text of a number shows one with the
fewest digits, and of those the nearest.  Decimals are compared with the number by cross
multiplication, on a scale fine enough for every finite number.

Main statement: `Decimal.shortestAmong_readsBack`, that a decimal found by the search rounds to
the number it stands for.
-/

namespace TrafficMeter.Decimal

-- Powers are the core library's, also where algebra brings another instance into scope.
attribute [local instance (high)] instPowNat

/-- The decimal `digits * 10^exponent`. -/
structure Scaled where
  digits : Nat
  exponent : Int
deriving DecidableEq, Repr

/-- Which of two decimals is taken when a number lies halfway between them. -/
inductive Tie where
  | up
  | even
deriving DecidableEq, Repr

/-- The decimals are cut on grids of `10^(-400)` and coarser. -/
def gridDepth : Nat := 400

/-- The gap below a power of two is half the gap above it, unless the exponents are exhausted. -/
def narrowBelow (significand power : Nat) : Bool := significand == 2 ^ (52 : Nat) && power != 0

/-- Whether `digits * 10^(place - 400)` rounds to `significand * 2^power` units: it lies between
the points halfway to the neighbours, and on such a point only if the significand is even. -/
def readsBack (significand power digits place : Nat) : Bool :=
  let quarter := 2 ^ power * 10 ^ gridDepth
  let point := 4 * digits * 10 ^ place * Binary.unitsInOne
  let low := (4 * significand - if narrowBelow significand power then 1 else 2) * quarter
  let high := (4 * significand + 2) * quarter
  if significand % 2 = 0 then decide (low ≤ point) && decide (point ≤ high)
  else decide (low < point) && decide (point < high)

/-- The nearest of the two neighbours on a grid that reads back, if either does. -/
def onGrid (tie : Tie) (significand power place : Nat) : Option Nat :=
  let value := significand * 2 ^ power * 10 ^ gridDepth
  let cell := 10 ^ place * Binary.unitsInOne
  let below := value / cell
  let twice := 2 * (value % cell)
  let upper := match tie with
    | .up => decide (cell ≤ twice)
    | .even => decide (cell < twice) || (twice == cell && below % 2 == 1)
  (if upper then [below + 1, below] else [below, below + 1]).find? fun digits =>
    readsBack significand power digits place

/-- Searches the grids from coarse to fine; the answer is a count of cells and their place. -/
def shortestAmong (tie : Tie) (significand power : Nat) : List Nat → Option (Nat × Nat)
  | [] => none
  | place :: finer =>
      match onGrid tie significand power place with
      | some digits => some (digits, place)
      | none => shortestAmong tie significand power finer

/-- Moves trailing zeros of the digits into the exponent. -/
def stripZeros : Nat → Scaled → Scaled
  | 0, d => d
  | fuel + 1, d =>
      if d.digits ≠ 0 ∧ d.digits % 10 = 0 then stripZeros fuel ⟨d.digits / 10, d.exponent + 1⟩
      else d

/-- The place of the first digit of a number that is not zero, on the scale of the grids. -/
def leadingPlace (significand power : Nat) : Nat :=
  (Nat.toDigits 10 (significand * 2 ^ power * 10 ^ gridDepth / Binary.unitsInOne)).length

/-- The exact decimal, for the case that no grid of seventeen digits has an answer. -/
def exactly (significand power : Nat) : Scaled :=
  ⟨significand * 2 ^ power * 5 ^ (1074 : Nat), -1074⟩

/-- The shortest decimal that reads back as so many units, nearest to them. -/
def shortest (tie : Tie) (significand power : Nat) : Scaled :=
  if significand = 0 then ⟨0, 0⟩
  else
    let leading := leadingPlace significand power
    match shortestAmong tie significand power ((List.range 17).map fun n => leading - (n + 1)) with
    | some (digits, place) => stripZeros 20 ⟨digits, (place : Int) - gridDepth⟩
    | none => exactly significand power

theorem onGrid_readsBack {tie : Tie} {s p place d : Nat} (h : onGrid tie s p place = some d) :
    readsBack s p d place = true := by
  simpa using List.find?_some h

/-- What the search finds rounds to the number. -/
theorem shortestAmong_readsBack {tie : Tie} {s p d place : Nat} {places : List Nat}
    (h : shortestAmong tie s p places = some (d, place)) : readsBack s p d place = true := by
  induction places with
  | nil => simp [shortestAmong] at h
  | cons next finer ih =>
      simp only [shortestAmong] at h
      split at h
      · next hit =>
          cases h
          exact onGrid_readsBack hit
      · exact ih h

end TrafficMeter.Decimal

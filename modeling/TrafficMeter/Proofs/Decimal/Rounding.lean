import TrafficMeter.Decimal.Reading
import TrafficMeter.Proofs.Decimal.Numerals

/-!
# How far rounding goes

A natural that is read as a number of double precision is rounded, and what comes out is at least
half of it, so a large natural does not become a small one. A number below zero counts as zero where
a natural is wanted.

Main statements: `half_le_toNatAtMost` and `toNatAtMost_negative`.
-/

namespace TrafficMeter.Decimal

-- Powers are the core library's, also where algebra brings another instance into scope.
attribute [local instance (high)] instPowNat

theorem div_le_nearestEven (num den : Nat) : num / den ≤ nearestEven num den := by
  rw [nearestEven]
  split
  · exact Nat.le_refl _
  · split
    · exact Nat.le_add_right _ _
    · exact Nat.le_succ _

namespace Binary

/-- A number with this sign that is not below half of so many units. -/
inductive Holds (negative : Bool) (units : Nat) : Binary → Prop
  | infinite : Holds negative units (infinite negative)
  | finite {s p : Nat} : units ≤ 2 * (s * 2 ^ p) → Holds negative units (finite negative s p)

theorem two_pow_powerFor_le {units : Nat} (positive : 0 < units) : 2 ^ powerFor units ≤ units :=
  calc 2 ^ powerFor units ≤ 2 ^ units.log2 := Nat.pow_le_pow_right (by decide) (Nat.sub_le _ _)
    _ ≤ units := Nat.log2_self_le (by omega)

/-- Rounding keeps the sign and, of whole units, at least a half. -/
theorem holds_roundUnits (negative : Bool) (num den : Nat) :
    Holds negative (num / den) (roundUnits negative num den) := by
  let power := powerFor (num / den)
  let significand := nearestEven num (den * 2 ^ power)
  have half : num / den ≤ 2 * (significand * 2 ^ power) := by
    by_cases none : num / den = 0
    · rw [none]
      exact Nat.zero_le _
    have least := two_pow_powerFor_le (Nat.pos_of_ne_zero none)
    have whole : num / den / 2 ^ power ≤ significand := by
      rw [Nat.div_div_eq_div_mul]
      exact div_le_nearestEven _ _
    have below := Nat.lt_div_mul_add (a := num / den) (Nat.two_pow_pos power)
    have kept := Nat.mul_le_mul_right (2 ^ power) whole
    have one : 1 ≤ num / den / 2 ^ power := (Nat.one_le_div_iff (Nat.two_pow_pos power)).mpr least
    have some := Nat.mul_le_mul_right (2 ^ power) one
    omega
  have done : ∀ s p, num / den ≤ 2 * (s * 2 ^ p) →
      Holds negative (num / den)
        (if 2045 < p then Binary.infinite negative else Binary.finite negative s p) := by
    intro s p enough
    split
    · exact .infinite
    · exact .finite enough
  unfold roundUnits
  by_cases long : significand = 2 ^ (53 : Nat)
  · -- a significand that is too long by one bit stands for the same number of units
    have carried : significand * 2 ^ power = 2 ^ (52 : Nat) * 2 ^ (power + 1) := by
      rw [long, ← Nat.pow_add, ← Nat.pow_add]
      congr 1
      omega
    rw [carried] at half
    simp only [significand, power] at long half
    simp only [long, if_true]
    exact done _ _ half
  · simp only [significand, power] at long half
    simp only [long, if_false]
    exact done _ _ half

theorem holds_ofRatio (negative : Bool) (n : Nat) :
    Holds negative (n * unitsInOne) (ofRatio negative n 1) := by
  have rounded := holds_roundUnits negative (n * unitsInOne) 1
  rw [Nat.div_one] at rounded
  exact rounded

/-- At least half of a natural, or the limit, is left when it was rounded. -/
theorem Holds.half_le_toNatAtMost {n : Nat} {x : Binary} (h : Holds false (n * unitsInOne) x)
    (limit : Nat) : min limit (n / 2) ≤ x.toNatAtMost limit := by
  cases h with
  | infinite => exact Nat.min_le_left _ _
  | @finite s p enough =>
      rw [toNatAtMost]
      simp only [Bool.false_eq_true, if_false]
      have one : 0 < unitsInOne := by
        rw [unitsInOne]
        exact Nat.two_pow_pos 1074
      have half : n / 2 ≤ (2 * (s * 2 ^ p) + unitsInOne) / (2 * unitsInOne) := by
        rw [← Nat.mul_div_mul_right n 2 one]
        exact Nat.div_le_div_right (Nat.le_add_right_of_le enough)
      omega

/-- What is below zero counts as zero. -/
theorem Holds.toNatAtMost_negative {units : Nat} {x : Binary} (h : Holds true units x)
    (limit : Nat) : x.toNatAtMost limit = 0 := by
  cases h with
  | infinite => rfl
  | finite enough => rfl

end Binary

/-! ## Numerals as numbers of double precision -/

open Binary (Holds)

theorem holds_toBinary (negative : Bool) {ds : List Char} {n : Nat} (h : Numeral ds n) :
    Holds negative (n * Binary.unitsInOne) (Written.toBinary negative ⟨ds, [], 0⟩) := by
  have value : valueOf (ds ++ []) = n := by
    rw [List.append_nil]
    exact h.value
  have exponent : (0 : Int) - (([] : List Char).length : Int) = 0 := rfl
  rw [Written.toBinary]
  simp only [value, exponent]
  split
  · next none =>
      rw [none, Nat.zero_mul]
      exact .finite (Nat.zero_le _)
  · split
    · exact .infinite
    · have ratio := Binary.holds_ofRatio negative n
      rw [if_neg (by omega), if_pos (Int.le_refl 0), Int.toNat_zero, Nat.pow_zero, Nat.mul_one]
      exact ratio

end TrafficMeter.Decimal

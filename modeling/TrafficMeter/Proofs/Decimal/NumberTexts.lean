import TrafficMeter.Proofs.Decimal.Rounding

/-!
# The texts of numbers

Whatever is read as a number, an integer or not, is spelled with few characters. So a text with a
comma is no number, and neither is a word that switches something on or off. Every integer, however
long, is read as a number too, which has its sign and is not much closer to zero.

Main statements: `spelled_of_number?`, `number?_of_unsigned` and `number?_of_minus`.
-/

namespace TrafficMeter.Decimal

/-- The lower-case forms of the characters of numbers: the digits, the signs, the point and the
letters of exponents and of the words for numbers that are not finite. -/
def numberChars : List Char := "0123456789+-.aefinty".toList

/-- A text with no other characters than those of numbers. -/
def Spelled (cs : List Char) : Prop := ∀ c ∈ cs, c.toLower ∈ numberChars

theorem spelled_cons {c : Char} {cs : List Char} :
    Spelled (c :: cs) ↔ c.toLower ∈ numberChars ∧ Spelled cs := List.forall_mem_cons

theorem spelled_append {first second : List Char} (before : Spelled first)
    (after : Spelled second) : Spelled (first ++ second) := by
  intro c member
  exact (List.mem_append.mp member).elim (before c) (after c)

/-- Digits are among these characters and have no case. -/
theorem toLower_eq_and_mem_of_isDigit {c : Char} (digit : isDigit c = true) :
    c.toLower = c ∧ c ∈ numberChars := by
  have all : ∀ n < 58, 48 ≤ n →
      (Char.ofNat n).toLower = Char.ofNat n ∧ Char.ofNat n ∈ numberChars := by decide
  obtain ⟨low, high⟩ := isDigit_iff.mp digit
  have own := all c.toNat (by omega) low
  rw [Char.ofNat_toNat] at own
  exact own

theorem toLower_mem_of_isDigit {c : Char} (digit : isDigit c = true) :
    c.toLower ∈ numberChars := by
  obtain ⟨lower, inside⟩ := toLower_eq_and_mem_of_isDigit digit
  rw [lower]
  exact inside

theorem spelled_takeWhile (cs : List Char) : Spelled (cs.takeWhile isDigit) :=
  fun c member => toLower_mem_of_isDigit (List.all_eq_true.mp List.all_takeWhile c member)

theorem spelled_of_natural? {cs : List Char} {n : Nat} (read : natural? cs = some n) :
    Spelled cs :=
  fun c member => toLower_mem_of_isDigit ((natural?_eq_some_iff.mp read).2.1 c member)

theorem spelled_of_exponent? {cs : List Char} {i : Int} (read : exponent? cs = some i) :
    Spelled cs := by
  have digits : ∀ rest : List Char, (natural? rest).isSome = true → Spelled rest := by
    intro rest some
    obtain ⟨n, value⟩ := Option.isSome_iff_exists.mp some
    exact spelled_of_natural? value
  unfold exponent? at read
  split at read
  · next rest =>
      refine spelled_cons.mpr ⟨by decide, digits rest ?_⟩
      cases value : natural? rest with
      | none =>
          rw [value] at read
          cases read
      | some n => rfl
  · next rest =>
      obtain ⟨n, value, -⟩ := Option.map_eq_some_iff.mp read
      exact spelled_cons.mpr ⟨by decide, spelled_of_natural? value⟩
  · obtain ⟨n, value, -⟩ := Option.map_eq_some_iff.mp read
    exact spelled_of_natural? value

theorem spelled_of_exponentPart? {cs : List Char} {i : Int} (read : exponentPart? cs = some i) :
    Spelled cs := by
  unfold exponentPart? at read
  split at read
  · exact fun c none => absurd none List.not_mem_nil
  · split at read
    · next mark =>
        refine spelled_cons.mpr ⟨?_, spelled_of_exponent? read⟩
        rcases mark with rfl | rfl
        · decide
        · decide
    · cases read

theorem spelled_of_written? {cs : List Char} {w : Written} (read : written? cs = some w) :
    Spelled cs := by
  rw [← List.takeWhile_append_dropWhile (p := isDigit) (l := cs)]
  refine spelled_append (spelled_takeWhile cs) ?_
  unfold written? at read
  generalize cs.dropWhile isDigit = rest at read
  simp only at read
  split at read
  · next more =>
      split at read
      · cases read
      · obtain ⟨exponent, part, -⟩ := Option.map_eq_some_iff.mp read
        have fraction := spelled_append (spelled_takeWhile more) (spelled_of_exponentPart? part)
        rw [List.takeWhile_append_dropWhile] at fraction
        exact spelled_cons.mpr ⟨by decide, fraction⟩
  · split at read
    · cases read
    · obtain ⟨exponent, part, -⟩ := Option.map_eq_some_iff.mp read
      exact spelled_of_exponentPart? part

theorem spelled_of_magnitude? {negative : Bool} {cs : List Char} {x : Binary}
    (read : magnitude? negative cs = some x) : Spelled cs := by
  have letters : ∀ word : List Char, cs.map Char.toLower = word →
      word.all (· ∈ numberChars) = true → Spelled cs := by
    intro word same all c member
    exact of_decide_eq_true (List.all_eq_true.mp all _ (same ▸ List.mem_map_of_mem member))
  unfold magnitude? at read
  simp only at read
  split at read
  · next word =>
      rcases word with short | long
      · exact letters _ short rfl
      · exact letters _ long rfl
  · split at read
    · next word => exact letters _ word rfl
    · obtain ⟨w, value, -⟩ := Option.map_eq_some_iff.mp read
      exact spelled_of_written? value

/-- What is read as a number is spelled with the characters of numbers. -/
theorem spelled_of_number? {cs : List Char} {x : Binary} (read : number? cs = some x) :
    Spelled cs := by
  unfold number? at read
  split at read
  · exact spelled_cons.mpr ⟨by decide, spelled_of_magnitude? read⟩
  · exact spelled_cons.mpr ⟨by decide, spelled_of_magnitude? read⟩
  · exact spelled_of_magnitude? read

theorem spelled_of_unsigned {cs : List Char} {n : Nat} (h : Unsigned cs n) : Spelled cs := by
  intro c member
  rcases h.eq_plus_or_isDigit member with rfl | digit
  · decide
  · exact toLower_mem_of_isDigit ((isDigit_eq c).trans digit)

/-- What is read as an integer is spelled with the characters of numbers. -/
theorem spelled_of_signed {cs : List Char} {i : Int} (h : Signed cs i) : Spelled cs := by
  cases h with
  | upward unsigned => exact spelled_of_unsigned unsigned
  | downward numeral =>
      exact spelled_cons.mpr ⟨by decide, spelled_of_unsigned (.bare numeral)⟩

/-! ## Integers as numbers -/

theorem written?_of_numeral {ds : List Char} {n : Nat} (h : Numeral ds n) :
    written? ds = some ⟨ds, [], 0⟩ := by
  have digits : ∀ c ∈ ds, isDigit c = true :=
    fun c member => (isDigit_eq c).trans (h.digits c member)
  have whole : (ds ++ []).takeWhile isDigit = ds ++ [].takeWhile isDigit :=
    List.takeWhile_append_of_pos digits
  have rest : (ds ++ []).dropWhile isDigit = [].dropWhile isDigit :=
    List.dropWhile_append_of_pos digits
  rw [List.append_nil] at whole rest
  simp [written?, whole, rest, h.nonempty, exponentPart?]

theorem magnitude?_of_numeral (negative : Bool) {ds : List Char} {n : Nat} (h : Numeral ds n) :
    magnitude? negative ds = some (Written.toBinary negative ⟨ds, [], 0⟩) := by
  have lower : ds.map Char.toLower = ds := by
    have each := List.map_congr_left fun c member =>
      (toLower_eq_and_mem_of_isDigit ((isDigit_eq c).trans (h.digits c member))).1
    rw [each, List.map_id']
  have other : ∀ word : List Char, 'n' ∈ word → ds ≠ word := by
    rintro word member rfl
    exact absurd (h.digits 'n' member) (by decide)
  rw [magnitude?, lower, written?_of_numeral h]
  simp only [other _ (show 'n' ∈ "inf".toList by decide),
    other _ (show 'n' ∈ "infinity".toList by decide),
    other _ (show 'n' ∈ "nan".toList by decide), or_self, if_false, Option.map_some]

/-- A natural is read as a number that is not below half of it. -/
theorem number?_of_unsigned {cs : List Char} {n : Nat} (h : Unsigned cs n) :
    ∃ x, number? cs = some x ∧ Binary.Holds false (n * Binary.unitsInOne) x := by
  cases h with
  | bare numeral =>
      refine ⟨_, ?_, holds_toBinary false numeral⟩
      unfold number?
      split
      · exact absurd rfl (numeral.head_ne (by decide) _)
      · exact absurd rfl (numeral.head_ne (by decide) _)
      · exact magnitude?_of_numeral false numeral
  | plus numeral => exact ⟨_, magnitude?_of_numeral false numeral, holds_toBinary false numeral⟩

/-- With a minus sign it is read as a number that is not above zero. -/
theorem number?_of_minus {ds : List Char} {n : Nat} (h : Numeral ds n) :
    ∃ x, number? ('-' :: ds) = some x ∧ Binary.Holds true (n * Binary.unitsInOne) x :=
  ⟨_, magnitude?_of_numeral true h, holds_toBinary true h⟩

end TrafficMeter.Decimal

import TrafficMeter.Proofs.Decimal.Spelling

/-!
# What a numeral stands for

A numeral is one or more digits, with zeros before it or without, and stands for the sum of its
digits times powers of ten. A sign before it is allowed in some places. The readers of naturals and
integers accept exactly the numerals whose value fits.

Main statements: `unsigned64?_eq_some_iff` and `signed64?_eq_some_iff`.
-/

namespace TrafficMeter.Decimal

-- Powers are the core library's, also where algebra brings another instance into scope.
attribute [local instance (high)] instPowNat

/-- One or more digits, and the natural that they stand for. -/
structure Numeral (ds : List Char) (n : Nat) : Prop where
  nonempty : ds ≠ []
  digits : ∀ c ∈ ds, c.isDigit = true
  value : Nat.ofDigitChars 10 ds 0 = n

/-- A numeral with a plus sign before it or without. -/
inductive Unsigned : List Char → Nat → Prop
  | bare {ds : List Char} {n : Nat} : Numeral ds n → Unsigned ds n
  | plus {ds : List Char} {n : Nat} : Numeral ds n → Unsigned ('+' :: ds) n

/-- A numeral with one sign before it or without. -/
inductive Signed : List Char → Int → Prop
  | upward {cs : List Char} {n : Nat} : Unsigned cs n → Signed cs n
  | downward {ds : List Char} {n : Nat} : Numeral ds n → Signed ('-' :: ds) (-n)

theorem isDigit_eq (c : Char) : isDigit c = c.isDigit := by
  rw [Bool.eq_iff_iff, isDigit_iff, Char.isDigit, Bool.and_eq_true, decide_eq_true_eq,
    decide_eq_true_eq, ge_iff_le, UInt32.le_iff_toNat_le, UInt32.le_iff_toNat_le]
  exact Iff.rfl

theorem valueOf_eq (ds : List Char) : valueOf ds = Nat.ofDigitChars 10 ds 0 := rfl

/-- Numerals are what is read as a natural. -/
theorem numeral_iff {ds : List Char} {n : Nat} : Numeral ds n ↔ natural? ds = some n := by
  rw [natural?_eq_some_iff, valueOf_eq]
  simp only [isDigit_eq]
  exact ⟨fun ⟨full, digits, value⟩ => ⟨full, digits, value⟩,
    fun ⟨full, digits, value⟩ => ⟨full, digits, value⟩⟩

namespace Numeral

variable {ds : List Char} {n : Nat}

/-- No sign is a digit. -/
theorem head_ne (h : Numeral ds n) {sign : Char} (other : sign.isDigit = false)
    (rest : List Char) : ds ≠ sign :: rest := by
  rintro rfl
  have digit := h.digits sign List.mem_cons_self
  rw [other] at digit
  cases digit

theorem unique (h : Numeral ds n) {m : Nat} (again : Numeral ds m) : n = m :=
  h.value.symm.trans again.value

end Numeral

namespace Unsigned

variable {cs : List Char} {n : Nat}

theorem ne_minus (h : Unsigned cs n) (rest : List Char) : cs ≠ '-' :: rest := by
  cases h with
  | bare numeral => exact numeral.head_ne (by decide) rest
  | plus numeral => simp

theorem ne_nil (h : Unsigned cs n) : cs ≠ [] := by
  cases h with
  | bare numeral => exact numeral.nonempty
  | plus numeral => exact List.cons_ne_nil _ _

theorem eq_plus_or_isDigit (h : Unsigned cs n) {c : Char} (member : c ∈ cs) :
    c = '+' ∨ c.isDigit = true := by
  cases h with
  | bare numeral => exact .inr (numeral.digits c member)
  | plus numeral => exact (List.mem_cons.mp member).imp id (numeral.digits c)

theorem unique (h : Unsigned cs n) {m : Nat} (again : Unsigned cs m) : n = m := by
  cases h with
  | bare numeral =>
      cases again with
      | bare other => exact numeral.unique other
      | plus other => exact absurd rfl (numeral.head_ne (by decide) _)
  | plus numeral =>
      cases again with
      | bare other => exact absurd rfl (other.head_ne (by decide) _)
      | plus other => exact numeral.unique other

end Unsigned

theorem Signed.unique {cs : List Char} {i : Int} (h : Signed cs i) {j : Int}
    (again : Signed cs j) : i = j := by
  cases h with
  | upward unsigned =>
      cases again with
      | upward other => rw [unsigned.unique other]
      | downward other => exact absurd rfl (unsigned.ne_minus _)
  | downward numeral =>
      cases again with
      | upward other => exact absurd rfl (other.ne_minus _)
      | downward other => rw [numeral.unique other]

theorem below?_eq_some_iff {limit n : Nat} {cs : List Char} :
    below? limit cs = some n ↔ Unsigned cs n ∧ n < limit := by
  unfold below?
  simp only [Option.filter_eq_some_iff, decide_eq_true_eq]
  refine and_congr_left fun _ => ?_
  constructor
  · intro read
    split at read
    · exact .plus (numeral_iff.mpr read)
    · exact .bare (numeral_iff.mpr read)
  · rintro (bare | plus)
    · split
      · exact absurd rfl (bare.head_ne (by decide) _)
      · exact numeral_iff.mp bare
    · exact numeral_iff.mp plus

/-- What is read as a natural of 64 bits. -/
theorem unsigned64?_eq_some_iff {cs : List Char} {n : Nat} :
    (unsigned64? cs).map UInt64.toNat = some n ↔ Unsigned cs n ∧ n < 2 ^ (64 : Nat) := by
  rw [← below?_eq_some_iff, unsigned64?, Option.map_map]
  constructor
  · intro read
    obtain ⟨m, small, rfl⟩ := Option.map_eq_some_iff.mp read
    have fits := (below?_eq_some_iff.mp small).2
    rw [Function.comp_apply, UInt64.toNat_ofNat_of_lt' fits]
    exact small
  · intro small
    have fits := (below?_eq_some_iff.mp small).2
    rw [small, Option.map_some, Function.comp_apply, UInt64.toNat_ofNat_of_lt' fits]

theorem signed64?_minus {ds : List Char} {i : Int} :
    signed64? ('-' :: ds) = some i ↔
      ∃ n : Nat, Numeral ds n ∧ n ≤ 2 ^ (63 : Nat) ∧ -(n : Int) = i := by
  rw [signed64?, Option.map_eq_some_iff]
  constructor
  · rintro ⟨_, size, rfl⟩
    obtain ⟨n, kept, same⟩ := Option.bind_eq_some_iff.mp size
    obtain ⟨numeral, small⟩ := Option.filter_eq_some_iff.mp kept
    cases same
    exact ⟨n, numeral_iff.mpr numeral, of_decide_eq_true small, rfl⟩
  · rintro ⟨n, numeral, small, rfl⟩
    refine ⟨n, Option.bind_eq_some_iff.mpr ⟨n, ?_, rfl⟩, rfl⟩
    exact Option.filter_eq_some_iff.mpr ⟨numeral_iff.mp numeral, decide_eq_true small⟩

/-- What is read as an integer of 64 bits. -/
theorem signed64?_eq_some_iff {cs : List Char} {i : Int} :
    signed64? cs = some i ↔
      Signed cs i ∧ -(2 ^ (63 : Nat) : Nat) ≤ i ∧ i < (2 ^ (63 : Nat) : Nat) := by
  constructor
  · intro read
    unfold signed64? at read
    split at read
    · obtain ⟨n, numeral, small, rfl⟩ := signed64?_minus.mp read
      exact ⟨.downward numeral, by omega, by omega⟩
    · obtain ⟨n, kept, rfl⟩ := Option.map_eq_some_iff.mp read
      obtain ⟨unsigned, small⟩ := below?_eq_some_iff.mp kept
      rw [Int.ofNat_eq_natCast]
      exact ⟨.upward unsigned, by omega, by omega⟩
  · rintro ⟨signed, low, high⟩
    cases signed with
    | @upward _ n unsigned =>
        have kept : below? (2 ^ (63 : Nat)) cs = some n :=
          below?_eq_some_iff.mpr ⟨unsigned, by omega⟩
        unfold signed64?
        split
        · exact absurd rfl (unsigned.ne_minus _)
        · exact Option.map_eq_some_iff.mpr ⟨n, kept, rfl⟩
    | @downward ds n numeral =>
        exact signed64?_minus.mpr ⟨n, numeral, by omega, rfl⟩

end TrafficMeter.Decimal

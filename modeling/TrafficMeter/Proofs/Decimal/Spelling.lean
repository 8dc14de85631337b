import TrafficMeter.Decimal.Layout
import TrafficMeter.Decimal.Numeral

/-!
# One spelling for each integer

An integer can be spelled with zeros before it and with a plus sign, and zero with a minus sign. It
is written without any of these.

Main statement: `integer_eq_iff`, that an integer of 64 bits is written as it was read exactly if it
is spelled plainly.
-/

namespace TrafficMeter.Decimal

theorem isDigit_iff {c : Char} : isDigit c = true ↔ 48 ≤ c.toNat ∧ c.toNat ≤ 57 := by
  simp only [isDigit, Bool.and_eq_true, decide_eq_true_eq, Char.le_def, UInt32.le_iff_toNat_le]
  exact Iff.rfl

theorem digitChar_digitValue {c : Char} (digit : isDigit c = true) :
    Nat.digitChar (digitValue c) = c := by
  obtain ⟨low, high⟩ := isDigit_iff.mp digit
  apply Char.toNat_inj.mp
  rw [digitValue, Nat.toNat_digitChar_of_lt_ten (by omega)]
  omega

theorem digitsOf_digitValue {c : Char} (digit : isDigit c = true) :
    digitsOf (digitValue c) = [c] := by
  have bounds := isDigit_iff.mp digit
  rw [digitsOf, Nat.toDigits_of_lt_base (by rw [digitValue]; omega), digitChar_digitValue digit]

theorem digitValue_pos {c : Char} (digit : isDigit c = true) (other : c ≠ '0') :
    0 < digitValue c := by
  have bounds := isDigit_iff.mp digit
  have apart : c.toNat ≠ 48 := fun same => other (Char.toNat_inj.mp same)
  rw [digitValue]
  omega

/-- Digits that are read after a number that is not zero are written after it. -/
theorem digitsOf_foldl {cs : List Char} (digits : ∀ c ∈ cs, isDigit c = true) {n : Nat}
    (positive : 0 < n) :
    digitsOf (cs.foldl (fun n c => 10 * n + digitValue c) n) = digitsOf n ++ cs := by
  induction cs generalizing n with
  | nil => simp
  | cons c rest ih =>
      have digit := digits c List.mem_cons_self
      have small : digitValue c < 10 := by
        have bounds := isDigit_iff.mp digit
        rw [digitValue]
        omega
      have next := Nat.toDigits_append_toDigits (by decide) positive small
      rw [Nat.toDigits_of_lt_base small, digitChar_digitValue digit] at next
      rw [List.foldl_cons, ih (fun d hd => digits d (List.mem_cons_of_mem c hd)) (by omega),
        digitsOf, ← next, digitsOf, List.append_assoc, List.singleton_append]

theorem digitsOf_valueOf_cons {c : Char} {rest : List Char}
    (digits : ∀ d ∈ c :: rest, isDigit d = true) (other : c ≠ '0') :
    digitsOf (valueOf (c :: rest)) = c :: rest := by
  have digit := digits c List.mem_cons_self
  have after : ∀ d ∈ rest, isDigit d = true := fun d hd => digits d (List.mem_cons_of_mem c hd)
  rw [valueOf, List.foldl_cons, Nat.mul_zero, Nat.zero_add,
    digitsOf_foldl after (digitValue_pos digit other), digitsOf_digitValue digit,
    List.singleton_append]

theorem valueOf_zero_cons (ds : List Char) : valueOf ('0' :: ds) = valueOf ds := rfl

/-- A numeral that does not start with a needless zero. -/
def Unpadded (ds : List Char) : Prop := ds.head? = some '0' → ds = ['0']

instance (ds : List Char) : Decidable (Unpadded ds) := inferInstanceAs (Decidable (_ → _))

theorem length_digitsOf_valueOf_le {ds : List Char} (digits : ∀ c ∈ ds, isDigit c = true) :
    (digitsOf (valueOf ds)).length ≤ max 1 ds.length := by
  induction ds with
  | nil => decide
  | cons c rest ih =>
      by_cases zero : c = '0'
      · subst zero
        have less := ih fun d hd => digits d (List.mem_cons_of_mem _ hd)
        rw [valueOf_zero_cons, List.length_cons]
        omega
      · rw [digitsOf_valueOf_cons digits zero]
        exact Nat.le_max_right _ _

/-- A numeral is written as it was read exactly if it has no needless zeros. -/
theorem digitsOf_eq_iff {ds : List Char} {n : Nat} (read : natural? ds = some n) :
    digitsOf n = ds ↔ Unpadded ds := by
  obtain ⟨full, digits, rfl⟩ := natural?_eq_some_iff.mp read
  obtain ⟨c, rest, rfl⟩ := List.exists_cons_of_ne_nil full
  by_cases zero : c = '0'
  · subst zero
    constructor
    · intro same _
      have short := length_digitsOf_valueOf_le fun d hd => digits d (List.mem_cons_of_mem _ hd)
      rw [← valueOf_zero_cons, same, List.length_cons] at short
      have none : rest = [] := List.length_eq_zero_iff.mp (by omega)
      rw [none]
    · intro single
      rw [single rfl]
      rfl
  · refine ⟨fun _ first => absurd (Option.some.inj first) zero, fun _ => ?_⟩
    exact digitsOf_valueOf_cons digits zero

/-- An integer without a plus sign, without needless zeros, and without a minus sign before zero. -/
def PlainInteger : List Char → Prop
  | '-' :: ds => Unpadded ds ∧ ds ≠ ['0']
  | cs => cs.head? ≠ some '+' ∧ Unpadded cs

instance : DecidablePred PlainInteger := fun cs => by
  unfold PlainInteger
  split <;> infer_instance

/-- What is written of the negative of a natural. -/
theorem integer_neg (n : Nat) :
    (integer (-(n : Int))).toList = if n = 0 then ['0'] else '-' :: digitsOf n := by
  cases n with
  | zero => rfl
  | succ m =>
      have shape : -((m + 1 : Nat) : Int) = Int.negSucc m := rfl
      rw [shape, integer, String.toList_ofList, if_neg (Nat.succ_ne_zero m)]

theorem digitsOf_ne_plus (n : Nat) (rest : List Char) : digitsOf n ≠ '+' :: rest := by
  intro signed
  have member : '+' ∈ Nat.toDigits 10 n := by
    rw [← digitsOf, signed]
    exact List.mem_cons_self
  have digit := Nat.isDigit_of_mem_toDigits (by decide) (by decide) member
  exact absurd digit (by decide)

/-- An integer of 64 bits is written as it was read exactly if it is spelled plainly. -/
theorem integer_eq_iff {cs : List Char} {i : Int} (read : signed64? cs = some i) :
    (integer i).toList = cs ↔ PlainInteger cs := by
  unfold signed64? at read
  split at read
  case h_1 ds =>
    obtain ⟨_, size, rfl⟩ := Option.map_eq_some_iff.mp read
    obtain ⟨n, kept, same⟩ := Option.bind_eq_some_iff.mp size
    cases same
    obtain ⟨numeral, -⟩ := Option.filter_eq_some_iff.mp kept
    rw [integer_neg, PlainInteger, ← digitsOf_eq_iff numeral]
    by_cases zero : n = 0
    · rw [if_pos zero, zero]
      simp [digitsOf, eq_comm]
    · rw [if_neg zero, List.cons.injEq]
      constructor
      · rintro ⟨-, rfl⟩
        exact ⟨rfl, fun same => zero (digitsOf_injective same)⟩
      · rintro ⟨same, -⟩
        exact ⟨rfl, same⟩
  case h_2 positive =>
    obtain ⟨n, kept, rfl⟩ := Option.map_eq_some_iff.mp read
    have plain : PlainInteger cs ↔ cs.head? ≠ some '+' ∧ Unpadded cs := by
      unfold PlainInteger
      split
      · next ds => exact absurd rfl (positive ds)
      · exact Iff.rfl
    obtain ⟨numeral, -⟩ := Option.filter_eq_some_iff.mp kept
    rw [plain, integer, natural, String.toList_ofList]
    split at numeral
    · simp [digitsOf_ne_plus]
    · next unsigned =>
        rw [digitsOf_eq_iff numeral]
        refine (and_iff_right fun first => ?_).symm
        obtain ⟨rest, rfl⟩ := List.head?_eq_some_iff.mp first
        exact unsigned rest rfl

end TrafficMeter.Decimal

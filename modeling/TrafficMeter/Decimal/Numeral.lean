/-!
# Integer numerals

A numeral is one or more decimal digits; some places allow a sign before it.  A numeral whose
value does not fit its place is no number there.

Main statement: `natural?_eq_some_iff`, which says what a numeral is and what it stands for.
-/

namespace TrafficMeter.Decimal

-- Powers are the core library's, also where algebra brings another instance into scope.
attribute [local instance (high)] instPowNat

/-- A digit of the decimal system. -/
def isDigit (c : Char) : Bool := decide ('0' ≤ c) && decide (c ≤ '9')

/-- The value of a digit. -/
def digitValue (c : Char) : Nat := c.toNat - 48

/-- The value of a row of digits, most significant first. -/
def valueOf (cs : List Char) : Nat := cs.foldl (fun n c => 10 * n + digitValue c) 0

/-- Reads one or more digits. -/
def natural? (cs : List Char) : Option Nat :=
  if cs ≠ [] ∧ cs.all isDigit then some (valueOf cs) else none

/-- Reads a natural below a limit; one plus sign may stand before it. -/
def below? (limit : Nat) (cs : List Char) : Option Nat :=
  let digits := match cs with
    | '+' :: rest => rest
    | _ => cs
  (natural? digits).filter (· < limit)

/-- Reads a natural of 64 bits; one plus sign may stand before it. -/
def unsigned64? (cs : List Char) : Option UInt64 := (below? (2 ^ (64 : Nat)) cs).map UInt64.ofNat

/-- Reads an integer of 64 bits in two's complement; one sign may stand before it. -/
def signed64? : List Char → Option Int
  | '-' :: rest => ((natural? rest).filter (· ≤ 2 ^ (63 : Nat))).map fun n => -(n : Int)
  | cs => (below? (2 ^ (63 : Nat)) cs).map Int.ofNat

/-- The greatest natural of 64 bits. -/
def maxNatural64 : Nat := 2 ^ (64 : Nat) - 1

/-- What a numeral is and what it stands for. -/
theorem natural?_eq_some_iff {cs : List Char} {n : Nat} :
    natural? cs = some n ↔ cs ≠ [] ∧ (∀ c ∈ cs, isDigit c = true) ∧ valueOf cs = n := by
  simp only [natural?, List.all_eq_true]
  split
  · next h =>
      simp only [Option.some.injEq]
      exact ⟨fun hv => ⟨h.1, h.2, hv⟩, fun hv => hv.2.2⟩
  · next h =>
      simp only [reduceCtorEq, false_iff]
      exact fun ⟨hne, hall, _⟩ => h ⟨hne, hall⟩

end TrafficMeter.Decimal

import TrafficMeter.Decimal.Binary
import TrafficMeter.Decimal.Numeral

/-!
# Reading numbers

The text of a number is a sign, which may be absent, and then the word `inf`, `infinity` or
`nan` in any case, or a decimal: digits with at most one point among, before or after them, and
an exponent, which may be absent.  The number is the one nearest to the decimal.
-/

namespace TrafficMeter.Decimal

-- Powers are the core library's, also where algebra brings another instance into scope.
attribute [local instance (high)] instPowNat

/-- A decimal as it is written: the digits before and after the point and the exponent. -/
structure Written where
  whole : List Char
  fraction : List Char
  exponent : Int
deriving Repr

/-- Reads the sign and digits of an exponent. -/
def exponent? : List Char → Option Int
  | '-' :: rest => (natural? rest).map fun n => -(n : Int)
  | '+' :: rest => (natural? rest).map Int.ofNat
  | cs => (natural? cs).map Int.ofNat

/-- Reads an exponent after its mark, or nothing at all. -/
def exponentPart? : List Char → Option Int
  | [] => some 0
  | c :: rest => if c = 'e' ∨ c = 'E' then exponent? rest else none

/-- Reads a decimal without sign. -/
def written? (cs : List Char) : Option Written :=
  let whole := cs.takeWhile isDigit
  let rest := cs.dropWhile isDigit
  let (fraction, rest) := match rest with
    | '.' :: more => (more.takeWhile isDigit, more.dropWhile isDigit)
    | _ => ([], rest)
  if whole = [] ∧ fraction = [] then none
  else (exponentPart? rest).map fun exponent => ⟨whole, fraction, exponent⟩

/-- Beyond this power of ten every decimal is infinite or zero. -/
def exponentBound : Nat := 400

/-- The number nearest to a decimal. -/
def Written.toBinary (negative : Bool) (w : Written) : Binary :=
  let n := valueOf (w.whole ++ w.fraction)
  let exponent := w.exponent - w.fraction.length
  let size := exponent + (Nat.toDigits 10 n).length
  if n = 0 then .finite negative 0 0
  else if (exponentBound : Int) < size then .infinite negative
  else if size < -(exponentBound : Int) then .finite negative 0 0
  else if 0 ≤ exponent then .ofRatio negative (n * 10 ^ exponent.toNat) 1
  else .ofRatio negative n (10 ^ exponent.natAbs)

/-- Reads a number without sign. -/
def magnitude? (negative : Bool) (cs : List Char) : Option Binary :=
  let word := cs.map Char.toLower
  if word = "inf".toList ∨ word = "infinity".toList then some (.infinite negative)
  else if word = "nan".toList then some .nan
  else (written? cs).map (Written.toBinary negative)

/-- Reads a number. -/
def number? : List Char → Option Binary
  | '-' :: rest => magnitude? true rest
  | '+' :: rest => magnitude? false rest
  | cs => magnitude? false cs

end TrafficMeter.Decimal

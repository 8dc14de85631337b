import TrafficMeter.Decimal.Shortest

/-!
# How numbers are written

Two layouts of the shortest decimal.  The plain one never has an exponent and drops a zero
fraction.  The one of data texts always has a fraction or an exponent, so that the number is
seen to be no integer, and turns to exponents for very large and very small numbers.
-/

namespace TrafficMeter.Decimal

/-- The sign of a number. -/
def sign (negative : Bool) : List Char := if negative then ['-'] else []

/-- The digits of a natural. -/
def digitsOf (n : Nat) : List Char := Nat.toDigits 10 n

theorem digitsOf_injective {m n : Nat} (same : digitsOf m = digitsOf n) : m = n := by
  have value := congrArg (fun ds => Nat.ofDigitChars 10 ds 0) same
  simpa [digitsOf] using value

/-- A natural in decimal digits. -/
def natural (n : Nat) : String := String.ofList (digitsOf n)

theorem natural_injective {m n : Nat} (same : natural m = natural n) : m = n :=
  digitsOf_injective (String.ofList_injective same)

/-- An integer in decimal digits. -/
def integer : Int → String
  | .ofNat n => natural n
  | .negSucc n => String.ofList ('-' :: digitsOf (n + 1))

/-- Digits with a point at a position counted from the left; `fraction` follows whole numbers. -/
def pointed (fraction : List Char) (d : Scaled) : List Char :=
  let ds := digitsOf d.digits
  if 0 ≤ d.exponent then ds ++ List.replicate d.exponent.toNat '0' ++ fraction
  else
    let places := d.exponent.natAbs
    if places < ds.length then ds.take (ds.length - places) ++ '.' :: ds.drop (ds.length - places)
    else '0' :: '.' :: List.replicate (places - ds.length) '0' ++ ds

/-- Digits with a point after the first and an exponent that always has a sign. -/
def exponential (d : Scaled) : List Char :=
  let ds := digitsOf d.digits
  let exponent := d.exponent + (ds.length : Int) - 1
  let plus := if 0 ≤ exponent then ['+'] else []
  let mantissa := match ds with
    | first :: second :: rest => first :: '.' :: second :: rest
    | short => short
  mantissa ++ 'e' :: plus ++ (integer exponent).toList

/-- The fewest digits that read back, a tie rounded up, without exponent and without a zero
fraction. -/
def Binary.plain : Binary → String
  | .nan => "NaN"
  | .infinite negative => String.ofList (sign negative ++ "inf".toList)
  | .finite negative s p => String.ofList (sign negative ++ pointed [] (shortest .up s p))

/-- The fewest digits that read back, a tie rounded to even, with a fraction from `10^(-5)` up to
`10^16` and with an exponent elsewhere. -/
def Binary.dataText : Binary → String
  | .nan => "null"
  | .infinite _ => "null"
  | .finite negative s p =>
      let d := shortest .even s p
      let point := d.exponent + ((digitsOf d.digits).length : Int)
      let body :=
        if d.digits = 0 || (decide (-5 < point) && decide (point ≤ 16)) then pointed ".0".toList d
        else exponential d
      String.ofList (sign negative ++ body)

/-- The plain text of a machine number. -/
def plainFloat (x : Float) : String := (Binary.ofFloat x).plain

end TrafficMeter.Decimal

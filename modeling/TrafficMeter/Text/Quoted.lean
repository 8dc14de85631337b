import TrafficMeter.Text.Printable

/-!
# Quoted text

Messages show a text they complain about between double quotes.  The quote, the backslash and
the four controls with a letter of their own are written with a backslash, every other hidden
character by its number, and all else as itself.  The single quote is not escaped.

Main statement: `quoteChar_of_visible`, that an ordinary character is written as itself.
-/

namespace TrafficMeter.Text

/-- The lower-case hexadecimal digits of a number, without padding. -/
def hexDigits (n : Nat) : List Char := Nat.toDigits 16 n

/-- How one character is written between the quotes. -/
def quoteChar (c : Char) : List Char :=
  if c = '"' then ['\\', '"']
  else if c = '\\' then ['\\', '\\']
  else if c = '\t' then ['\\', 't']
  else if c = '\r' then ['\\', 'r']
  else if c = '\n' then ['\\', 'n']
  else if c = '\x00' then ['\\', '0']
  else if isHidden c then ['\\', 'u', '\x7b'] ++ hexDigits c.toNat ++ ['\x7d']
  else [c]

/-- The text between double quotes. -/
def quote (s : String) : String :=
  String.ofList ('"' :: s.toList.flatMap quoteChar ++ ['"'])

/-- A character that is neither hidden, a quote nor a backslash is written as itself. -/
theorem quoteChar_of_visible {c : Char} (hq : c ≠ '"') (hb : c ≠ '\\')
    (hv : isHidden c = false) : quoteChar c = [c] := by
  have low : ∀ d : Char, d.toNat < 0x20 → c ≠ d := by
    rintro d hd rfl
    simp [isHidden_of_lt_space hd] at hv
  simp [quoteChar, hq, hb, hv, low '\t' (by decide), low '\r' (by decide),
    low '\n' (by decide), low '\x00' (by decide)]

end TrafficMeter.Text

/-!
# Tokens and field text

The two character classes of message heads: tokens, of which methods and field names are
made, and field text, of which a field value is made if it can be read as text.
-/

namespace TrafficMeter.Text

/-- The characters of a token: letters, digits and fifteen signs. -/
def isTokenChar (c : Char) : Bool :=
  c.isAlphanum || "!#$%&'*+-.^_`|~".toList.contains c

/-- A token is not empty and holds token characters only. -/
def isToken (s : String) : Bool :=
  !s.isEmpty && s.toList.all isTokenChar

/-- A value may hold tabs and all characters but the other controls and the delete character. -/
def isFieldChar (c : Char) : Bool :=
  c = '\t' || (decide (0x20 ≤ c.toNat) && c.toNat != 0x7f)

/-- The visible characters of ASCII, the space and the tab. -/
def isTextChar (c : Char) : Bool :=
  c = '\t' || (decide (0x20 ≤ c.toNat) && decide (c.toNat ≤ 0x7e))

/-- A value that can be read as text. -/
def isFieldText (s : String) : Bool := s.toList.all isTextChar

/-- Spaces and tabs, the only blanks of a field text. -/
def isBlank (c : Char) : Bool := c = ' ' || c = '\t'

/-- Drops the blanks at both ends. -/
def trimBlanks (cs : List Char) : List Char :=
  ((cs.dropWhile isBlank).reverse.dropWhile isBlank).reverse

/-- Lower-case form of the letters of ASCII; other characters are kept. -/
def lowerAscii (s : String) : String := String.ofList (s.toList.map Char.toLower)

/-- Field text is made of characters that a value may hold. -/
theorem isFieldChar_of_isTextChar {c : Char} (h : isTextChar c = true) : isFieldChar c = true := by
  simp only [isTextChar, isFieldChar, Bool.or_eq_true, Bool.and_eq_true, decide_eq_true_eq,
    bne_iff_ne] at h ⊢
  exact h.imp id fun ⟨low, high⟩ => ⟨low, by omega⟩

end TrafficMeter.Text

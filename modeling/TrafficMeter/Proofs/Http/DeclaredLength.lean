import TrafficMeter.Proofs.Auth.Reading
import TrafficMeter.Proofs.Decimal.Numerals
import TrafficMeter.Proofs.Http.FieldList
import TrafficMeter.Proofs.Routing.Patterns

/-!
# Which body lengths are declared

The length of a body is known if the first field for it is text of ASCII in which, apart from white
space around it, one numeral stands, with a plus sign or without, whose value fits into 64 bits. Any
number of zeros may stand before its digits. All other requests leave the length open, and no field
but the first is looked at.

Main statement: `declaredLength?_exact`.
-/

namespace TrafficMeter

namespace Text

/-- A byte of visible ASCII, a space or a tab. -/
def Legible (b : UInt8) : Prop := b = 0x09 ∨ 0x20 ≤ b ∧ b ≤ 0x7e

theorem utf8EncodeChar_of_ascii {c : Char} (small : c.val.toNat < 0x80) :
    String.utf8EncodeChar c = [UInt8.ofNat c.val.toNat] := by
  fun_cases String.utf8EncodeChar c with
  | case1 v single => rfl
  | case2 v more | case3 v more | case4 v more => exact absurd (Nat.le_of_lt_succ small) more

theorem legible_iff {b : UInt8} :
    Legible b ↔ b.toNat = 0x09 ∨ 0x20 ≤ b.toNat ∧ b.toNat ≤ 0x7e := by
  rw [Legible, ← UInt8.toNat_inj, UInt8.le_iff_toNat_le, UInt8.le_iff_toNat_le]
  exact Iff.rfl

theorem isTextChar_iff {c : Char} :
    isTextChar c = true ↔ c.val.toNat = 0x09 ∨ 0x20 ≤ c.val.toNat ∧ c.val.toNat ≤ 0x7e := by
  rw [isTextChar, Bool.or_eq_true, Bool.and_eq_true, decide_eq_true_eq, decide_eq_true_eq,
    decide_eq_true_eq, ← Char.toNat_inj]
  exact Iff.rfl

/-- The characters of text are those whose bytes are legible. -/
theorem isTextChar_iff_bytes {c : Char} :
    isTextChar c = true ↔ ∀ b ∈ String.utf8EncodeChar c, Legible b := by
  constructor
  · intro text b member
    have range := isTextChar_iff.mp text
    rw [utf8EncodeChar_of_ascii (by omega), List.mem_singleton] at member
    rw [member, legible_iff, UInt8.toNat_ofNat_of_lt' (by change _ < 256; omega)]
    exact range
  · intro legible
    obtain ⟨b, member⟩ := List.exists_mem_of_ne_nil _ (String.utf8EncodeChar_ne_nil (c := c))
    have range := legible_iff.mp (legible b member)
    rw [isTextChar_iff, Routing.ascii_mem_utf8EncodeChar (by omega) member]
    exact range

theorem isFieldText_iff {value : String} :
    isFieldText value = true ↔ ∀ b ∈ bytes value, Legible b := by
  rw [isFieldText, List.all_eq_true, bytes_eq_flatMap]
  simp only [isTextChar_iff_bytes, List.mem_flatMap]
  constructor
  · rintro each b ⟨c, member, inside⟩
    exact each c member b inside
  · intro all c member b inside
    exact all b ⟨c, member, inside⟩

/-- In text the only white space is that of spaces and tabs. -/
theorem isBlank_eq {c : Char} (text : isTextChar c = true) : isBlank c = c.isWhitespace := by
  have range := isTextChar_iff.mp text
  have other : c ≠ '\r' ∧ c ≠ '\n' := by
    refine ⟨?_, ?_⟩
    all_goals
      rintro rfl
      revert range
      decide
  simp [isBlank, Char.isWhitespace, other]

theorem forall_isBlank_iff {cs : List Char} (text : ∀ c ∈ cs, isTextChar c = true) :
    (∀ c ∈ cs, isBlank c = true) ↔ ∀ c ∈ cs, c.isWhitespace = true :=
  forall₂_congr fun c member => by rw [isBlank_eq (text c member)]

theorem isBlank_of_isDigit {c : Char} (digit : c.isDigit = true) : isBlank c = false := by
  rw [Bool.eq_false_iff]
  intro blank
  rcases Bool.or_eq_true _ _ ▸ blank with space | tab
  · rw [of_decide_eq_true space] at digit
    cases digit
  · rw [of_decide_eq_true tab] at digit
    cases digit

/-- What stands between blanks without a blank itself is what trimming leaves. -/
theorem trimBlanks_between {before body after : List Char} (lead : ∀ c ∈ before, isBlank c = true)
    (full : body ≠ []) (solid : ∀ c ∈ body, isBlank c = false)
    (trail : ∀ c ∈ after, isBlank c = true) : trimBlanks (before ++ body ++ after) = body := by
  have keep : ∀ cs more : List Char, cs ≠ [] → (∀ c ∈ cs, isBlank c = false) →
      (cs ++ more).dropWhile isBlank = cs ++ more := by
    intro cs more some none
    obtain ⟨c, rest, rfl⟩ := List.exists_cons_of_ne_nil some
    rw [List.cons_append, List.dropWhile_cons, none c List.mem_cons_self]
    rfl
  have back := keep body.reverse [] (by simpa using full) (by simpa using solid)
  rw [List.append_nil] at back
  rw [trimBlanks, List.append_assoc, List.dropWhile_append_of_pos lead, keep _ _ full solid,
    List.reverse_append, List.dropWhile_append_of_pos (by simpa using trail), back,
    List.reverse_reverse]

/-- Trimming takes blanks from both ends. -/
theorem exists_around_trimBlanks (cs : List Char) :
    ∃ before after, cs = before ++ trimBlanks cs ++ after ∧ (∀ c ∈ before, isBlank c = true) ∧
      ∀ c ∈ after, isBlank c = true := by
  let rest := cs.dropWhile isBlank
  refine ⟨cs.takeWhile isBlank, (rest.reverse.takeWhile isBlank).reverse, ?_, ?_, ?_⟩
  · have inner : trimBlanks cs ++ (rest.reverse.takeWhile isBlank).reverse = rest := by
      rw [trimBlanks, ← List.reverse_append, List.takeWhile_append_dropWhile, List.reverse_reverse]
    rw [List.append_assoc, inner, List.takeWhile_append_dropWhile]
  · exact fun c member => List.all_eq_true.mp List.all_takeWhile c member
  · exact fun c member => List.all_eq_true.mp List.all_takeWhile c (List.mem_reverse.mp member)

end Text

namespace Http

open Auth.Credentials (First first?_eq_some_iff)
open Decimal (Unsigned)
open Headers (lowered)

/-- A value is the first one of a name before the case of names was lowered. -/
def Headers.FirstOf (fields : List (String × String)) (name value : String) : Prop :=
  ∃ before written after, fields = before ++ (written, value) :: after ∧
    Text.lowerAscii written = name ∧ ∀ f ∈ before, Text.lowerAscii f.1 ≠ name

theorem Headers.first_lowered_iff {fields : List (String × String)} {name value : String} :
    First (lowered fields) name value ↔ FirstOf fields name value := by
  rw [← first?_eq_some_iff, first?_eq_find?, lowered, List.find?_map, Option.map_map,
    Option.map_eq_some_iff]
  simp only [List.find?_eq_some_iff_append]
  constructor
  · rintro ⟨⟨written, _⟩, ⟨own, before, after, rfl, others⟩, rfl⟩
    refine ⟨before, written, after, rfl, by simpa using own, ?_⟩
    intro f member
    simpa using others f member
  · rintro ⟨before, written, after, rfl, rfl, others⟩
    refine ⟨(written, value), ⟨by simp, before, after, rfl, ?_⟩, rfl⟩
    intro f member
    simpa using others f member

/-- A field value declares a length: it is text with one numeral between white space. -/
structure Declares (value : String) (n : Nat) : Prop where
  text : ∀ b ∈ Text.bytes value, Text.Legible b
  numeral : ∃ before body after, value.toList = before ++ body ++ after ∧
    (∀ c ∈ before, c.isWhitespace = true) ∧ (∀ c ∈ after, c.isWhitespace = true) ∧
    Unsigned body n
  fits : n < 2 ^ 64

/-- A value declares what is read of it. -/
theorem declares_iff {value : String} {n : Nat} :
    Declares value n ↔ Text.isFieldText value = true ∧
      (Decimal.unsigned64? (Text.trimBlanks value.toList)).map UInt64.toNat = some n := by
  rw [Decimal.unsigned64?_eq_some_iff]
  -- blanks and white space are the same in all parts of a text
  have part : ∀ {cs : List Char}, Text.isFieldText value = true → cs ⊆ value.toList →
      ((∀ c ∈ cs, Text.isBlank c = true) ↔ ∀ c ∈ cs, c.isWhitespace = true) :=
    fun text inside => Text.forall_isBlank_iff fun c member =>
      List.all_eq_true.mp text c (inside member)
  constructor
  · rintro ⟨text, ⟨before, body, after, parts, lead, trail, numeral⟩, fits⟩
    rw [← Text.isFieldText_iff] at text
    rw [← part text (by simp [parts])] at lead trail
    have solid : ∀ c ∈ body, Text.isBlank c = false := by
      intro c member
      rcases numeral.eq_plus_or_isDigit member with rfl | digit
      · rfl
      · exact Text.isBlank_of_isDigit digit
    refine ⟨text, ?_, fits⟩
    rw [parts, Text.trimBlanks_between lead numeral.ne_nil solid trail]
    exact numeral
  · rintro ⟨text, numeral, fits⟩
    obtain ⟨before, after, parts, lead, trail⟩ := Text.exists_around_trimBlanks value.toList
    have front : before ⊆ value.toList := by
      rw [parts]
      simp
    have back : after ⊆ value.toList := by
      rw [parts]
      simp
    exact ⟨Text.isFieldText_iff.mp text, ⟨before, _, after, parts, (part text front).mp lead,
      (part text back).mp trail, numeral⟩, fits⟩

/-- A length is declared exactly if the first field for it declares one. What comes after that field
does not matter, and neither does the case of the name. -/
theorem declaredLength?_exact (hs : Headers) :
    (∀ n, (declaredLength? hs).map UInt64.toNat = some n ↔
      ∃ value, First hs "content-length" value ∧ Declares value n) ∧
    (declaredLength? hs = none ↔
      ∀ value, First hs "content-length" value → ∀ n, ¬ Declares value n) ∧
    (∀ value others, First hs "content-length" value → First others "content-length" value →
      declaredLength? others = declaredLength? hs) ∧
    ∀ fields, Headers.read fields = .ok hs → ∀ value,
      First hs "content-length" value ↔ Headers.FirstOf fields "content-length" value := by
  have exact : ∀ n, (declaredLength? hs).map UInt64.toNat = some n ↔
      ∃ value, First hs "content-length" value ∧ Declares value n := by
    intro n
    simp only [declaredLength?, Headers.text?, Option.map_bind, Option.bind_eq_some_iff,
      Option.filter_eq_some_iff, first?_eq_some_iff, declares_iff, Function.comp_apply, and_assoc]
  refine ⟨exact, ?_, ?_, ?_⟩
  · rw [← Option.map_eq_none_iff (f := UInt64.toNat), Option.eq_none_iff_forall_ne_some]
    simp only [ne_eq, exact, not_exists, not_and]
    exact ⟨fun none value first n => none n value first, fun none n value first =>
      none value first n⟩
  · intro value others first same
    rw [declaredLength?, declaredLength?, Headers.text?, Headers.text?,
      first?_eq_some_iff.mpr first, first?_eq_some_iff.mpr same]
  · intro fields read value
    obtain ⟨-, rfl⟩ := Headers.read_eq_ok_iff.mp read
    exact Headers.first_lowered_iff

/-- Fields of which the first for the length has a padded numeral, the greatest of 64 bits. -/
def paddedFields : List (String × String) :=
  [("Host", "h"), ("CONTENT-Length", "\t+0018446744073709551615 "), ("content-length", "7")]

theorem declaredLength?_exact_padded :
    Headers.read paddedFields = .ok (lowered paddedFields) ∧
      (declaredLength? (lowered paddedFields)).map UInt64.toNat = some 18446744073709551615 := by
  have read : Headers.read paddedFields = .ok (lowered paddedFields) := by decide +kernel
  have first : Headers.FirstOf paddedFields "content-length" "\t+0018446744073709551615 " :=
    ⟨[("Host", "h")], "CONTENT-Length", [("content-length", "7")], rfl, by decide +kernel,
      by decide +kernel⟩
  have numeral : Unsigned "+0018446744073709551615".toList 18446744073709551615 :=
    .plus ⟨nofun, List.all_eq_true.mp rfl, rfl⟩
  have declares : Declares "\t+0018446744073709551615 " 18446744073709551615 :=
    { text := Text.isFieldText_iff.mp (by decide +kernel)
      numeral := ⟨['\t'], _, [' '], rfl, List.all_eq_true.mp rfl, List.all_eq_true.mp rfl, numeral⟩
      fits := by decide }
  obtain ⟨accepts, -, -, named⟩ := declaredLength?_exact (lowered paddedFields)
  exact ⟨read, (accepts _).mpr ⟨_, (named _ read _).mpr first, declares⟩⟩

end Http

end TrafficMeter

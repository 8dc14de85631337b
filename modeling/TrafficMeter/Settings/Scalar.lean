import TrafficMeter.Decimal.Layout
import TrafficMeter.Decimal.Reading

/-!
# Scalar settings

The text of a setting is a truth value, an integer of 64 bits, a number, or just a text, whichever
fits first.  A place that wants a text gets the value written anew, so a text that looks like a
number may come out differently from how it went in.

Main statement: `toText_read_of_text`, that a setting which is just a text is kept.
-/

namespace TrafficMeter.Settings

open TrafficMeter.Decimal (Binary)

/-- A scalar value. -/
inductive Scalar where
  | bool (b : Bool)
  | integer (i : Int)
  | float (x : Binary)
  | text (s : String)
deriving DecidableEq, Repr

namespace Scalar

/-- Reads a word as a truth value, in any case. -/
def bool? (word : String) : Option Bool :=
  let w := word.toList.map Char.toLower
  if w = "true".toList then some true
  else if w = "false".toList then some false
  else none

/-- Reads a scalar from the text of a setting. -/
def read (s : String) : Scalar :=
  match bool? s, Decimal.signed64? s.toList, Decimal.number? s.toList with
  | some b, _, _ => bool b
  | none, some i, _ => integer i
  | none, none, some x => float x
  | none, none, none => text s

/-- A scalar as a text. -/
def toText : Scalar → String
  | bool true => "true"
  | bool false => "false"
  | integer i => Decimal.integer i
  | float x => x.plain
  | text s => s

/-- Whether a text is none of the other kinds of values. -/
def isText (s : String) : Bool :=
  (bool? s).isNone && (Decimal.signed64? s.toList).isNone && (Decimal.number? s.toList).isNone

/-- A setting that is just a text is kept. -/
theorem toText_read_of_text {s : String} (h : isText s = true) : (read s).toText = s := by
  simp only [isText, Bool.and_eq_true, Option.isNone_iff_eq_none] at h
  simp [read, h.1.1, h.1.2, h.2, toText]

/-- A word that switches something on or off, in any case. -/
def switch? (word : String) : Option Bool :=
  let w := word.toList.map Char.toLower
  if w = "true".toList ∨ w = "on".toList ∨ w = "yes".toList then some true
  else if w = "false".toList ∨ w = "off".toList ∨ w = "no".toList then some false
  else none

end Scalar

end TrafficMeter.Settings

/-!
# Text as bytes

Lengths and encodings on the wire count the bytes of a text's UTF-8 form.  Main statement:
`ofBytes?_bytes`, that the bytes of a text read back as that text.
-/

namespace TrafficMeter.Text

/-- The UTF-8 bytes of a text. -/
def bytes (s : String) : List UInt8 := s.toUTF8.data.toList

/-- The text with these UTF-8 bytes; there is none if they are no valid UTF-8. -/
def ofBytes? (bs : List UInt8) : Option String := String.fromUTF8? bs.toByteArray

/-- The bytes of a text read back as that text. -/
theorem ofBytes?_bytes (s : String) : ofBytes? (bytes s) = some s := by
  have h : (bytes s).toByteArray = s.toByteArray := by
    apply ByteArray.ext
    apply Array.toList_inj.mp
    simp [bytes]
  have hv : s.toByteArray.IsValidUTF8 := s.isValidUTF8
  simp [ofBytes?, h, String.fromUTF8?, hv, String.fromUTF8]

theorem bytes_injective {s t : String} (same : bytes s = bytes t) : s = t := by
  have back := congrArg ofBytes? same
  rw [ofBytes?_bytes, ofBytes?_bytes] at back
  exact Option.some.inj back

/-- The bytes of a text are those of its characters one after the other. -/
theorem bytes_ofList (cs : List Char) :
    bytes (String.ofList cs) = cs.flatMap String.utf8EncodeChar := by
  simp [bytes, List.utf8Encode]

theorem bytes_eq_flatMap (s : String) : bytes s = s.toList.flatMap String.utf8EncodeChar := by
  rw [← bytes_ofList, String.ofList_toList]

end TrafficMeter.Text

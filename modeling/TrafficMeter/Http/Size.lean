import TrafficMeter.Decimal.Numeral
import TrafficMeter.Http.Request

/-!
# The size of a request

A request is measured without reading it: its head as it would be written, less blanks and line
ends, plus the body length that its head declares. The client chooses the declared length freely, so
the sum can be too large for a word of 64 bits. There is no size then: adding up crashes.

Main statement: `approximateSize_eq_ok_iff`, that a size is the exact sum.
-/

namespace TrafficMeter.Http

-- Sums start at the core library's zero and powers are its own, also where algebra brings other
-- instances into scope.
attribute [local instance (high)] Zero.ofOfNat0 instPowNat

/-- The body length that the fields declare: the first such field counts, if it is text and holds
one numeral of 64 bits between blanks. -/
def declaredLength? (hs : Headers) : Option UInt64 :=
  (hs.text? "content-length").bind fun value =>
    Decimal.unsigned64? (Text.trimBlanks value.toList)

namespace Request

/-- The host: the first such field if it is text, else the authority of the target. -/
def host (r : Request) : String :=
  match r.headers.text? "host" with
  | some value => value
  | none => r.target.authority.getD ""

/-- The bytes of a name with all its values. -/
def fieldBytes (hs : Headers) (name : String) : Nat :=
  name.utf8ByteSize + ((hs.values name).map String.utf8ByteSize).sum

/-- The bytes of the head: target, method, protocol, each name but the host once with all its
values, and the host. -/
def headBytes (r : Request) : Nat :=
  r.target.text.utf8ByteSize + r.method.utf8ByteSize + r.version.text.utf8ByteSize +
  ((r.headers.names.filter (· != "host")).map (fieldBytes r.headers)).sum +
  r.host.utf8ByteSize

/-- The body length that the head declares, none if it declares nothing. -/
def declaredBytes (r : Request) : Nat := ((declaredLength? r.headers).getD 0).toNat

/-- The bytes of the head and the declared body. -/
def bytes (r : Request) : Nat := r.headBytes + r.declaredBytes

/-- The bytes are a word of 64 bits. -/
def Fits (r : Request) : Prop := r.bytes < 2 ^ (64 : Nat)

instance (r : Request) : Decidable r.Fits := inferInstanceAs (Decidable (_ < _))

/-- The message of the crash where a sum does not fit into its word. -/
def overflow : String := "attempt to add with overflow"

/-- The size of the head and the declared body in 64 bits, or the message of a crash. -/
def approximateSize (r : Request) : Except String UInt64 :=
  if r.bytes < 2 ^ (64 : Nat) then .ok (UInt64.ofNat r.bytes) else .error overflow

/-- A size is the exact sum. -/
theorem approximateSize_eq_ok_iff {r : Request} {size : UInt64} :
    r.approximateSize = .ok size ↔ size.toNat = r.bytes := by
  rw [approximateSize]
  split
  · next fits =>
      rw [Except.ok.injEq, ← UInt64.toNat_inj, UInt64.toNat_ofNat', Nat.mod_eq_of_lt fits, eq_comm]
  · next long =>
      refine iff_of_false nofun fun same => long ?_
      rw [← same]
      exact size.toNat_lt

/-- Only the number of bytes counts. -/
theorem approximateSize_congr {r other : Request} (same : r.bytes = other.bytes) :
    r.approximateSize = other.approximateSize := by
  rw [approximateSize, approximateSize, same]

/-- A size is the word that the bytes are. -/
theorem ofNat_bytes {r : Request} {size : UInt64} (sized : r.approximateSize = .ok size) :
    UInt64.ofNat r.bytes = size := by
  rw [← approximateSize_eq_ok_iff.mp sized, UInt64.ofNat_toNat]

theorem Fits.exists_approximateSize {r : Request} (fits : r.Fits) :
    ∃ size, r.approximateSize = .ok size := ⟨_, if_pos fits⟩

/-- There is no size if the sum does not fit. -/
theorem approximateSize_of_not_fits {r : Request} (long : ¬ r.Fits) :
    r.approximateSize = .error overflow := if_neg long

theorem isOk_approximateSize {r : Request} : r.approximateSize.isOk = true ↔ r.Fits := by
  rw [approximateSize]
  split
  · next fits => exact iff_of_true rfl fits
  · next long => exact iff_of_false nofun long

end Request

end TrafficMeter.Http

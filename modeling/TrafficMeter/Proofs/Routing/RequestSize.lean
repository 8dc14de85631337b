import Mathlib.Algebra.Ring.Nat
import TrafficMeter.Proofs.Http.Admission
import TrafficMeter.Proofs.Routing.Effects

/-!
# The size that is recorded of a request

A request is measured by its head and by the body length that its head declares, added up in 64
bits. The client chooses the declared length freely, so the sum can be too large for a word. Then
the meter crashes before the service behind it is reached.

Main statement: `recorded_size`, what a meter records of a request, and when it records anything.
-/

namespace TrafficMeter

namespace Http.Request

/-- A request has a size, and the size covers both of its parts. -/
def Covered (r : Request) : Prop :=
  ∃ size, r.approximateSize = .ok size ∧ r.declaredBytes ≤ size.toNat ∧ r.headBytes ≤ size.toNat

/-- A size covers the parts whenever there is one, that is, if no addition leaves the 64 bits. -/
theorem covered_iff (r : Request) : r.Covered ↔ r.headBytes + r.declaredBytes < 2 ^ 64 := by
  constructor
  · rintro ⟨size, sized, -, -⟩
    have same := approximateSize_eq_ok_iff.mp sized
    rw [bytes] at same
    rw [← same]
    exact size.toNat_lt
  · intro fits
    obtain ⟨size, sized⟩ := Fits.exists_approximateSize fits
    have same := approximateSize_eq_ok_iff.mp sized
    rw [bytes] at same
    refine ⟨size, sized, ?_, ?_⟩
    · rw [same]
      exact Nat.le_add_left _ _
    · rw [same]
      exact Nat.le_add_right _ _

/-- A request that is admitted has a method and a protocol, which are nine bytes at least. -/
theorem Admitted.nine_le_headBytes {r : Request} (admitted : r.Admitted) : 9 ≤ r.headBytes := by
  have some : r.method ≠ "" := by
    intro none
    have token := admitted.legal.1
    rw [none] at token
    exact absurd token (by decide)
  have letters : 1 ≤ r.method.utf8ByteSize := by
    rw [Nat.one_le_iff_ne_zero]
    exact fun none => some (String.utf8ByteSize_eq_zero_iff.mp none)
  have protocol : r.version.text.utf8ByteSize = 8 := by
    cases r.version <;> rfl
  rw [headBytes]
  omega

/-- Whoever declares nearly as much as a word can hold makes the addition crash. -/
theorem Admitted.unsized {r : Request} (admitted : r.Admitted)
    (huge : 2 ^ 64 ≤ r.declaredBytes + 9) : r.approximateSize = .error overflow := by
  have head := admitted.nine_le_headBytes
  apply approximateSize_of_not_fits
  rw [Fits, bytes, Nat.not_lt]
  exact (huge.trans (Nat.add_le_add_left head _)).trans (Nat.add_comm _ _).le

end Http.Request

namespace Routing

open TrafficMeter.Http (Request)
open TrafficMeter.Traffic (Telemetry Observation Response)

/-- What becomes of a request that meets a meter and is not meant for its exporter. If its parts add
up to less than a word holds, it reaches the service behind the meter, and their sum is recorded.
Otherwise nothing is reached or recorded, and the request crashes. So each recorded size is the
exact sum, and a request is covered by a size if and only if it is let through. -/
theorem recorded_size (core : Core) (captures : List (String × String)) (elapsed : Float)
    (m : Meter) (inner : List Layer) (t : Telemetry) {request : Request}
    (metered : request.path ≠ m.exporterPath) :
    (request.headBytes + request.declaredBytes < 2 ^ 64 →
      ∃ observed : Response → Observation,
        respondThrough core request captures elapsed (.meter m :: inner) t =
          ((respondThrough core request captures elapsed inner t).1,
            (respondThrough core request captures elapsed inner t).2.map fun response =>
              { response with
                body := .metered (some ⟨m.collectors, observed response⟩) 0 response.body }) ∧
        ∀ response, request.approximateSize = .ok (observed response).requestSize ∧
          (observed response).requestSize.toNat = request.headBytes + request.declaredBytes) ∧
    (2 ^ 64 ≤ request.headBytes + request.declaredBytes →
      request.approximateSize = .error Request.overflow ∧
        respondThrough core request captures elapsed (.meter m :: inner) t =
          (t, .error Request.overflow)) ∧
    (request.Covered ↔ request.headBytes + request.declaredBytes < 2 ^ 64) := by
  refine ⟨?_, ?_, request.covered_iff⟩
  · intro fits
    obtain ⟨size, sized⟩ := Request.Fits.exists_approximateSize fits
    refine ⟨fun response =>
      { status := response.status
        method := request.method
        path := request.path
        elapsed
        requestSize := size
        responseSize := 0 }, ?_, ?_⟩
    · rw [respondThrough_meter_sized _ _ _ _ _ metered sized]
      rfl
    · intro response
      exact ⟨sized, Request.approximateSize_eq_ok_iff.mp sized⟩
  · intro long
    have unsized := Request.approximateSize_of_not_fits (Nat.not_lt_of_le long)
    exact ⟨unsized, respondThrough_meter_unsized core captures elapsed inner t metered unsized⟩

/-- A request that declares the greatest length that can be declared. -/
def endless : Request :=
  { method := "GET", target := { path := "/" },
    headers := [("content-length", "18446744073709551615")] }

/-- Such a request crashes, although its service would find it. -/
theorem recorded_size_endless :
    endless.path ≠ "/metrics" ∧ ¬ endless.Covered ∧
      endless.approximateSize = .error "attempt to add with overflow" ∧
      respondThrough (.handler Handler.notFound) endless [] 0
          [.meter ⟨Traffic.Collectors.ofSubsystem 0 "http", "/metrics"⟩] {} =
        ({}, .error "attempt to add with overflow") := by
  have other : endless.path ≠ "/metrics" := by decide
  have declared : endless.declaredBytes = 2 ^ 64 - 1 := by decide +kernel
  have head : endless.headBytes = 46 := by decide +kernel
  have long : 2 ^ 64 ≤ endless.headBytes + endless.declaredBytes := by
    rw [head, declared]
    decide
  obtain ⟨-, crashes, covered⟩ := recorded_size (.handler Handler.notFound) [] 0
    ⟨Traffic.Collectors.ofSubsystem 0 "http", "/metrics"⟩ [] {} other
  exact ⟨other, fun fits => Nat.not_lt_of_le long (covered.mp fits), crashes long⟩

/-- Not every request that is admitted gets a size that covers its parts. -/
theorem size_not_covered :
    ¬ ∀ (method target body : String) (version : Http.Version) (fields : List (String × String))
      (r : Request), Request.read method target version fields body = .ok r →
      r.headBytes + r.declaredBytes < 2 ^ 64 ∧
        ∃ size, r.approximateSize = .ok size ∧ r.declaredBytes ≤ size.toNat ∧
          r.headBytes ≤ size.toNat := by
  intro covered
  have admitted : Request.read "GET" "/" .v11 [("Content-Length", "18446744073709551615")] "" =
      .ok endless := rfl
  have huge : 2 ^ 64 ≤ endless.declaredBytes + 9 := by
    decide +kernel
  have request : endless.Admitted := ⟨_, _, _, _, _, admitted⟩
  obtain ⟨-, size, sized, -⟩ := covered _ _ _ _ _ _ admitted
  cases (request.unsized huge).symm.trans sized

end Routing

end TrafficMeter

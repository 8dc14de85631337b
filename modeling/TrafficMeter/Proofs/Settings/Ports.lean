import Mathlib.Algebra.Ring.Int.Defs
import Mathlib.Algebra.Ring.Nat
import TrafficMeter.Proofs.Settings.Overrides

/-!
# Integers that are set as the port

The text of a port is taken for an integer of 64 bits first, and for a number of double precision if
it is too long for that. A number that is far too great stays too great when it is rounded. But a
number below zero is brought up to zero, where an integer below zero is refused.

Main statement: `keepsPort_iff`, which integers are loaded as they are or not at all.
-/

namespace TrafficMeter.Settings

open TrafficMeter.Decimal (Signed Spelled Binary)

namespace Scalar

/-- What an integer is taken for: itself, or a number of double precision on its side of zero. -/
inductive TakenFor (value : Int) : Scalar → Prop
  | integer : -(2 ^ 63) ≤ value → value < 2 ^ 63 → TakenFor value (.integer value)
  | below {x : Binary} {units : Nat} : value < -(2 ^ 63) → Binary.Holds true units x →
      TakenFor value (.float x)
  | above {x : Binary} {n : Nat} : 2 ^ 63 ≤ n → value = n →
      Binary.Holds false (n * Binary.unitsInOne) x → TakenFor value (.float x)

theorem takenFor_of_signed {text : String} {value : Int} (numeral : Signed text.toList value) :
    TakenFor value (read text) := by
  have truth := bool?_of_spelled (Decimal.spelled_of_signed numeral)
  by_cases fits : -(2 ^ 63) ≤ value ∧ value < 2 ^ 63
  · have whole := Decimal.signed64?_eq_some_iff.mpr ⟨numeral, by omega, by omega⟩
    rw [read, truth, whole]
    exact .integer fits.1 fits.2
  · have none : Decimal.signed64? text.toList = none := by
      rw [Option.eq_none_iff_forall_ne_some]
      intro i whole
      obtain ⟨again, low, high⟩ := Decimal.signed64?_eq_some_iff.mp whole
      obtain rfl := numeral.unique again
      exact fits ⟨by omega, by omega⟩
    have taken : ∀ x, Decimal.number? text.toList = some x → read text = .float x := by
      intro x number
      rw [read, truth, none, number]
    generalize text.toList = cs at numeral taken
    cases numeral with
    | upward unsigned =>
        obtain ⟨x, number, holds⟩ := Decimal.number?_of_unsigned unsigned
        rw [taken x number]
        exact .above (by omega) rfl holds
    | downward numeral =>
        obtain ⟨x, number, holds⟩ := Decimal.number?_of_minus numeral
        rw [taken x number]
        exact .below (by omega) holds

end Scalar

/-- The port that an integer is converted to. -/
def ServerSettings.portOf? (value : Int) : Option Nat :=
  if value < -(2 ^ 63) then some 0
  else if 0 ≤ value ∧ value ≤ 65535 then some value.toNat
  else none

namespace Node

/-- A natural of 16 bits is one of 64 bits that is small enough. -/
theorem toNatural16_toOption {key : String} {n : Node} :
    (n.toNatural16 key).toOption = (n.toNatural64 key).toOption.filter (· ≤ 65535) := by
  rw [toNatural16, Attempt.toOption_bind]
  cases n.toNatural64 key with
  | error e => rfl
  | ok i =>
      simp only [Except.toOption, Option.bind_some, Option.filter_some]
      by_cases small : i ≤ 65535
      · rw [if_pos (by omega), if_pos (decide_eq_true small)]
      · rw [if_neg (by omega), if_neg (by simpa using small)]

/-- Which natural of 16 bits an integer is converted to. -/
theorem toNatural16_of_takenFor {key : String} {value : Int} {s : Scalar}
    (taken : s.TakenFor value) :
    ((scalar s).toNatural16 key).toOption = ServerSettings.portOf? value := by
  rw [toNatural16_toOption, ServerSettings.portOf?]
  cases taken with
  | integer low high =>
      rw [if_neg (by omega), toNatural64]
      by_cases sign : 0 ≤ value
      · rw [if_pos sign, Except.toOption, Option.filter_some]
        refine if_congr ?_ rfl rfl
        rw [decide_eq_true_eq]
        omega
      · rw [if_neg sign, if_neg (by omega)]
        rfl
  | below less holds =>
      rw [if_pos less, toNatural64, holds.toNatAtMost_negative]
      rfl
  | @above x n great same holds =>
      have half := holds.half_le_toNatAtMost Decimal.maxNatural64
      have limit : Decimal.maxNatural64 = 2 ^ 64 - 1 := rfl
      rw [if_neg (by omega), if_neg (by omega), toNatural64, Except.toOption, Option.filter_some,
        if_neg]
      rw [decide_eq_true_eq]
      omega

end Node

/-- An integer that is the only thing that is set, as the port, is loaded as it is if it is in the
range of ports, and nothing is loaded otherwise. -/
def ServerSettings.KeepsPort (text : String) (value : Int) : Prop :=
  ∀ env : Environment, env.OnlyOverride "APP__PORT" text →
    ((∃ s, load env = .ok s) ↔ 0 ≤ value ∧ value ≤ 65535) ∧
      ∀ s, load env = .ok s → (s.port : Int) = value

namespace ServerSettings

variable {env : Environment} {text : String} {value : Int}

/-- The defaults with another port. -/
def withPort (port : Nat) : ServerSettings :=
  { port, metrics := { subsystem := "http", path := "/metrics" } }

theorem load_port (only : env.OnlyOverride "APP__PORT" text) :
    load env = ((Node.scalar (Scalar.read text)).toNatural16 "port").map withPort := by
  have own : Environment.keyText? "APP__PORT" = some "port" := by decide +kernel
  have place : Key.ofText "port" = ⟨"port", []⟩ := by decide +kernel
  rw [load_of_port only own place, Environment.value_of_ne (by decide)]
  rfl

/-- What is loaded if an integer is set as the port. -/
theorem load_integer_port (only : env.OnlyOverride "APP__PORT" text)
    (numeral : Signed text.toList value) :
    (load env).toOption = (portOf? value).map withPort := by
  rw [load_port only, Attempt.toOption_map,
    Node.toNatural16_of_takenFor (Scalar.takenFor_of_signed numeral)]

theorem load_port_below (only : env.OnlyOverride "APP__PORT" text)
    (numeral : Signed text.toList value) (below : value < -(2 ^ 63)) :
    load env = .ok (withPort 0) := by
  rw [← Attempt.toOption_eq_some_iff, load_integer_port only numeral, portOf?, if_pos below]
  rfl

/-- An integer is loaded as it is or not at all, unless it is below the integers of 64 bits. It is
loaded as zero then. -/
theorem keepsPort_iff (numeral : Signed text.toList value) :
    (KeepsPort text value ↔ -(2 ^ 63) ≤ value) ∧
      (value < -(2 ^ 63) → ∀ env : Environment, env.OnlyOverride "APP__PORT" text →
        load env = .ok (withPort 0)) := by
  refine ⟨⟨fun keeps => ?_, fun fits env only => ?_⟩,
    fun below env only => load_port_below only numeral below⟩
  · have only := Environment.onlyOverride_singleton "APP__PORT" text
    by_contra below
    have loaded := load_port_below only numeral (by omega)
    have same := (keeps _ only).2 _ loaded
    change (0 : Int) = value at same
    omega
  · have ports : ∀ s, load env = .ok s ↔
        (0 ≤ value ∧ value ≤ 65535) ∧ withPort value.toNat = s := by
      intro s
      rw [← Attempt.toOption_eq_some_iff, load_integer_port only numeral, portOf?,
        if_neg (by omega)]
      by_cases inside : 0 ≤ value ∧ value ≤ 65535
      · rw [if_pos inside, Option.map_some, Option.some_inj, and_iff_right inside]
      · rw [if_neg inside, Option.map_none]
        exact iff_of_false nofun fun found => inside found.1
    constructor
    · simp only [ports, exists_and_left, exists_eq', and_true]
    · intro s loaded
      obtain ⟨⟨nonnegative, -⟩, rfl⟩ := (ports s).mp loaded
      exact Int.toNat_of_nonneg nonnegative

/-- One more than what fits into 64 bits is no port, not even once it is a number of double
precision. -/
theorem keepsPort_two_pow_64_succ :
    Signed "+18446744073709551617".toList (18446744073709551617 : Nat) ∧
      KeepsPort "+18446744073709551617" (18446744073709551617 : Nat) := by
  have numeral : Signed "+18446744073709551617".toList (18446744073709551617 : Nat) :=
    .upward (.plus ⟨nofun, List.all_eq_true.mp rfl, rfl⟩)
  exact ⟨numeral, (keepsPort_iff numeral).1.mpr (by omega)⟩

/-- The first integer below those of 64 bits is loaded as port zero. -/
theorem not_keepsPort_of_signed :
    ¬ ∀ text value, Signed text.toList value → KeepsPort text value := by
  intro keeps
  have numeral : Signed "-9223372036854775809".toList (-(9223372036854775809 : Nat)) :=
    .downward ⟨nofun, List.all_eq_true.mp rfl, rfl⟩
  have only := Environment.onlyOverride_singleton "APP__PORT" "-9223372036854775809"
  have loaded := load_port_below only numeral (by omega)
  have same := (keeps _ _ numeral _ only).2 _ loaded
  exact absurd same (by decide)

end ServerSettings

end TrafficMeter.Settings

import Mathlib.Data.List.Forall2
import TrafficMeter.Proofs.Settings.Overrides

/-!
# Numbers that are set as the quantiles

The quantiles are cut at commas, but only once their text is found to be nothing else. Two numbers
or more with commas between them are no number, so they are cut and each is read. A number alone is
taken for a number before it could be cut, and there is a number then where a list is wanted.

Main statement: `loadsQuantiles_iff`, how many numbers it takes for them to be loaded.
-/

namespace TrafficMeter.Settings

open TrafficMeter.Decimal (Spelled Binary)

/-- Each text is read as the number at its place. -/
abbrev ReadAs (texts : List String) (values : List Binary) : Prop :=
  List.Forall₂ (fun text x => Decimal.number? text.toList = some x) texts values

theorem number_of_mem {texts : List String} {values : List Binary} (numbers : ReadAs texts values)
    {text : String} (member : text ∈ texts) : ∃ x, Decimal.number? text.toList = some x := by
  induction numbers with
  | nil => cases member
  | @cons first x _ _ number _ ih =>
      rcases List.mem_cons.mp member with rfl | later
      · exact ⟨x, number⟩
      · exact ih later

namespace Scalar

/-- A text with a comma in it is just a text. -/
theorem read_of_comma {text : String} (comma : ',' ∈ text.toList) : read text = .text text := by
  have strange : ¬ Spelled text.toList := fun spelled => absurd (spelled _ comma) (by decide)
  have truth : bool? text = none := by
    have lowered : ',' ∈ text.toList.map Char.toLower := List.mem_map.mpr ⟨',', comma, by decide⟩
    rw [bool?, if_neg, if_neg]
    all_goals
      intro same
      rw [same] at lowered
      revert lowered
      decide
  have whole : Decimal.signed64? text.toList = none := by
    rw [Option.eq_none_iff_forall_ne_some]
    intro i found
    exact strange (Decimal.spelled_of_signed (Decimal.signed64?_eq_some_iff.mp found).1)
  have number : Decimal.number? text.toList = none := by
    rw [Option.eq_none_iff_forall_ne_some]
    intro x found
    exact strange (Decimal.spelled_of_number? found)
  rw [read, truth, whole, number]

/-- A number is taken for an integer or for a number of double precision. -/
theorem read_of_number? {text : String} {x : Binary}
    (number : Decimal.number? text.toList = some x) :
    (∃ i, read text = .integer i) ∨ read text = .float x := by
  have truth := bool?_of_spelled (Decimal.spelled_of_number? number)
  cases whole : Decimal.signed64? text.toList with
  | some i => exact .inl ⟨i, by rw [read, truth, whole]⟩
  | none => exact .inr (by rw [read, truth, whole, number])

end Scalar

namespace Node

theorem toNumber_of_number? {text key : String} {x : Binary}
    (number : Decimal.number? text.toList = some x) :
    (scalar (.text text)).toNumber key = .ok x.toFloat := by
  rw [toNumber, Scalar.switch?_of_spelled (Decimal.spelled_of_number? number), number]

/-- The items of a list that are texts of numbers are converted one by one. -/
theorem toNumbers_of_readAs {key : String} {index : Nat} {texts : List String}
    {values : List Binary} (numbers : ReadAs texts values) :
    toNumbers key index (texts.map fun text => scalar (.text text)) =
      .ok (values.map Binary.toFloat) := by
  induction numbers generalizing index with
  | nil => rfl
  | cons number numbers ih =>
      rw [List.map_cons, toNumbers, toNumber_of_number? number, ih]
      rfl

end Node

namespace Environment

theorem value_of_comma {text : String} (comma : ',' ∈ text.toList) :
    value listKey text =
      .list ((Text.split ',' text.toList).map fun part =>
        .scalar (.text (String.ofList part))) := by
  rw [value, Scalar.read_of_comma comma]
  exact if_pos rfl

/-- Several numbers with commas between them are cut into these numbers. -/
theorem value_of_readAs {texts : List String} {values : List Binary}
    (numbers : ReadAs texts values) (several : 2 ≤ texts.length) :
    value listKey (",".intercalate texts) =
      .list (texts.map fun text => .scalar (.text text)) := by
  have chars : (",".intercalate texts).toList = [','].intercalate (texts.map String.toList) :=
    String.toList_intercalate
  have none : ∀ part ∈ texts.map String.toList, ',' ∉ part := by
    intro part member comma
    obtain ⟨text, inside, rfl⟩ := List.mem_map.mp member
    obtain ⟨x, number⟩ := number_of_mem numbers inside
    exact absurd (Decimal.spelled_of_number? number _ comma) (by decide)
  match texts, several with
  | first :: second :: rest, _ =>
      have comma : ',' ∈ (",".intercalate (first :: second :: rest)).toList := by simp
      rw [value_of_comma comma, chars, Text.split_intercalate (by simp) none, List.map_map]
      simp only [Function.comp_def, String.ofList_toList]

/-- A number alone is no list. -/
theorem value_of_number? {text : String} {x : Binary}
    (number : Decimal.number? text.toList = some x) :
    value listKey text = .scalar (Scalar.read text) := by
  rcases Scalar.read_of_number? number with ⟨i, integer⟩ | float
  · rw [value, integer]
  · rw [value, float]

end Environment

/-- If numbers with commas between them are the only thing that is set, as the quantiles, then these
numbers are loaded, and a registry can be made of them. -/
def ServerSettings.LoadsQuantiles (texts : List String) (values : List Float) : Prop :=
  ∀ env : Environment, env.OnlyOverride "APP__METRICS__QUANTILES" (",".intercalate texts) →
    ∃ s r, load env = .ok s ∧ s.metrics.quantiles = values ∧ s.metrics.registry = .ok r

namespace MetricsSettings

theorem registry_of_quantiles {s : MetricsSettings} (given : s.quantiles ≠ []) :
    s.registry = .ok { quantiles := s.quantiles.map Metric.Sketch.clamp } := by
  have full : s.quantiles.isEmpty = false := List.isEmpty_eq_false_iff.mpr given
  rw [registry, Metric.Registry.withQuantiles, full]
  rfl

end MetricsSettings

namespace ServerSettings

/-- The defaults with quantiles. -/
def withQuantiles (quantiles : List Float) : ServerSettings :=
  { port := 8080, metrics := { subsystem := "http", path := "/metrics", quantiles } }

variable {env : Environment} {text : String}

theorem load_quantiles (only : env.OnlyOverride "APP__METRICS__QUANTILES" text) :
    load env = (MetricsSettings.readQuantiles "metrics.quantiles"
      (some (Environment.value Environment.listKey text))).map withQuantiles := by
  have own : Environment.keyText? "APP__METRICS__QUANTILES" = some Environment.listKey := by
    decide +kernel
  have inside : Key.ofText Environment.listKey = ⟨"metrics", [.name "quantiles"]⟩ := by
    decide +kernel
  rw [load_of_metrics only own inside (by simp)]
  -- the subsystem and the path are texts, so only the quantiles can be refused
  generalize Environment.value Environment.listKey text = found
  change Except.map _ (Except.bind (MetricsSettings.readQuantiles "metrics.quantiles"
    (some found)) _) = _
  cases MetricsSettings.readQuantiles "metrics.quantiles" (some found) with
  | error e => rfl
  | ok quantiles => rfl

/-- A single number is refused. -/
theorem load_quantile {x : Binary} (only : env.OnlyOverride "APP__METRICS__QUANTILES" text)
    (number : Decimal.number? text.toList = some x) :
    load env = .error (.shape (.scalar (Scalar.read text)) .sequence) := by
  rw [load_quantiles only, Environment.value_of_number? number]
  rfl

theorem load_quantiles_of_readAs {texts : List String} {values : List Binary}
    (only : env.OnlyOverride "APP__METRICS__QUANTILES" (",".intercalate texts))
    (numbers : ReadAs texts values) (several : 2 ≤ texts.length) :
    load env = .ok (withQuantiles (values.map Binary.toFloat)) := by
  rw [load_quantiles only, Environment.value_of_readAs numbers several,
    MetricsSettings.readQuantiles, Node.toNumbers_of_readAs numbers]
  rfl

/-- Numbers are loaded if there are two of them or more. A single one is refused, for it is found
where a list is wanted. -/
theorem loadsQuantiles_iff {texts : List String} {values : List Binary} (given : texts ≠ [])
    (numbers : ReadAs texts values) :
    (LoadsQuantiles texts (values.map Binary.toFloat) ↔ 2 ≤ texts.length) ∧
      ∀ text, texts = [text] →
        ∀ env : Environment, env.OnlyOverride "APP__METRICS__QUANTILES" text →
          load env = .error (.shape (.scalar (Scalar.read text)) .sequence) := by
  have refused : ∀ text, texts = [text] →
      ∀ env : Environment, env.OnlyOverride "APP__METRICS__QUANTILES" text →
        load env = .error (.shape (.scalar (Scalar.read text)) .sequence) := by
    rintro text rfl env only
    obtain ⟨x, number⟩ := number_of_mem numbers List.mem_cons_self
    exact load_quantile only number
  refine ⟨⟨fun loads => ?_, fun several env only => ?_⟩, refused⟩
  · match texts, given with
    | [text], _ =>
        have only := Environment.onlyOverride_singleton "APP__METRICS__QUANTILES" text
        obtain ⟨s, r, loaded, -⟩ := loads _ only
        rw [refused text rfl _ only] at loaded
        cases loaded
    | _ :: _ :: rest, _ => exact Nat.le_add_left 2 rest.length
  · have nonempty : values.map Binary.toFloat ≠ [] := by
      rw [ne_eq, List.map_eq_nil_iff, ← List.length_eq_zero_iff, ← numbers.length_eq]
      omega
    exact ⟨withQuantiles (values.map Binary.toFloat), _,
      load_quantiles_of_readAs only numbers several, rfl,
      MetricsSettings.registry_of_quantiles nonempty⟩

/-- Numbers of several kinds are loaded together. -/
theorem loadsQuantiles_of_kinds :
    ["0.5", "NaN", "+1e3"] ≠ [] ∧
      ReadAs ["0.5", "NaN", "+1e3"]
        [.finite false 4503599627370496 1021, .nan, .finite false 8796093022208000 1031] ∧
      LoadsQuantiles ["0.5", "NaN", "+1e3"]
        ([.finite false 4503599627370496 1021, .nan, .finite false 8796093022208000 1031].map
          Binary.toFloat) := by
  have numbers : ReadAs ["0.5", "NaN", "+1e3"]
      [.finite false 4503599627370496 1021, .nan, .finite false 8796093022208000 1031] :=
    .cons (by decide +kernel) (.cons (by decide +kernel) (.cons (by decide +kernel) .nil))
  have given : ["0.5", "NaN", "+1e3"] ≠ [] := List.cons_ne_nil _ _
  exact ⟨given, numbers, (loadsQuantiles_iff given numbers).1.mpr (Nat.le_succ 2)⟩

/-- One half alone is not loaded. -/
theorem not_loadsQuantiles_of_readAs :
    ¬ ∀ texts values, texts ≠ [] → ReadAs texts values →
      LoadsQuantiles texts (values.map Binary.toFloat) := by
  intro loads
  have number : Decimal.number? "0.5".toList = some (.finite false 4503599627370496 1021) := by
    decide +kernel
  have only := Environment.onlyOverride_singleton "APP__METRICS__QUANTILES" "0.5"
  obtain ⟨s, r, loaded, -⟩ :=
    loads ["0.5"] _ (List.cons_ne_nil _ _) (.cons number .nil) _ only
  rw [load_quantile only number] at loaded
  cases loaded

end ServerSettings

end TrafficMeter.Settings

import TrafficMeter.Proofs.Attempts
import TrafficMeter.Proofs.Decimal.NumberTexts
import TrafficMeter.Proofs.Settings.Trees

/-!
# What a single variable changes

Settings are loaded from the defaults if no variable counts. A single one that counts changes the
place that its name stands for, so whether settings are loaded, and which, is up to what is found at
this place. No word for a truth value is spelled like a number, so a number is never taken for one.

Main statements: `load_of_port` and `load_of_metrics`.
-/

namespace TrafficMeter.Settings

open TrafficMeter.Decimal (Spelled)

namespace Scalar

/-- The words for truth values. -/
def truthWords : List String := ["true", "on", "yes", "false", "off", "no"]

/-- Each of these words has a letter that no number has. -/
theorem map_toLower_ne_of_spelled {cs : List Char} (spelled : Spelled cs) {word : String}
    (listed : word ∈ truthWords) : cs.map Char.toLower ≠ word.toList := by
  intro same
  have foreign : truthWords.all (·.toList.any (· ∉ Decimal.numberChars)) = true := rfl
  obtain ⟨letter, inside, other⟩ := List.any_eq_true.mp (List.all_eq_true.mp foreign word listed)
  rw [← same] at inside
  obtain ⟨original, member, rfl⟩ := List.mem_map.mp inside
  exact of_decide_eq_true other (spelled original member)

theorem bool?_of_spelled {text : String} (spelled : Spelled text.toList) : bool? text = none := by
  have word := @map_toLower_ne_of_spelled _ spelled
  rw [bool?, if_neg (word (by decide)), if_neg (word (by decide))]

theorem switch?_of_spelled {text : String} (spelled : Spelled text.toList) :
    switch? text = none := by
  have word := @map_toLower_ne_of_spelled _ spelled
  rw [switch?, if_neg, if_neg]
  all_goals
    rintro (same | same | same)
    all_goals exact word (by decide) same

end Scalar

namespace Environment

theorem value_of_ne {key : String} (other : key ≠ listKey) (text : String) :
    value key text = .scalar (Scalar.read text) := by
  unfold value
  split
  · next found => rw [if_neg other, found]
  · rfl

end Environment

namespace ServerSettings

/-- These members once something inside them was set. -/
def changedMembers (field : String) (rest : List Step) (v : Node) : List (String × Node) :=
  Node.setMember field (.put v rest ((metricsMembers.lookup field).getD .empty)) metricsMembers

/-- Of the root a port and the metrics settings are read. -/
theorem read_of_members {n port metrics : Node} (first : n.member? "port" = some port)
    (second : n.member? "metrics" = some metrics) :
    read n = (port.toNatural16 "port").bind fun port =>
      (MetricsSettings.read metrics).map fun metrics => { port, metrics } := by
  simp only [Node.member?] at first second
  simp only [read, MetricsSettings.required, first, second]
  rfl

variable {env : Environment} {name text key : String}

/-- A single variable that stands for the port changes nothing else. -/
theorem load_of_port (only : env.OnlyOverride name text)
    (own : Environment.keyText? name = some key) (place : Key.ofText key = ⟨"port", []⟩) :
    load env = ((Environment.value key text).toNatural16 "port").map fun port =>
      { port, metrics := { subsystem := "http", path := "/metrics" } } := by
  have changed := Environment.member?_applyTo_of_onlyOverride only own defaults
  rw [place] at changed
  have metrics : (env.applyTo defaults).member? "metrics" = some (.table metricsMembers) := by
    rw [changed, if_neg (by simp)]
    rfl
  have port : (env.applyTo defaults).member? "port" = some (Environment.value key text) := by
    rw [changed, if_pos rfl]
    exact congrArg some (Node.overlay_of_not_table (Environment.value_ne_table key text) _)
  have upward : (Key.ofText key).Upward := by
    rw [place]
    exact nofun
  rw [load_eq (Environment.undershoots_of_onlyOverride only own upward),
    read_of_members port metrics]
  cases (Environment.value key text).toNatural16 "port" <;> rfl

/-- The metrics settings that hold unless they are changed are not nested. -/
theorem leaf_metricsMembers (field : String) {instead : Node} (leaf : instead.Leaf) :
    ((metricsMembers.lookup field).getD instead).Leaf := by
  simp only [metricsMembers, Assoc.lookup_cons_ite]
  split
  · exact ⟨rfl, rfl⟩
  · split
    · exact ⟨rfl, rfl⟩
    · exact leaf

/-- A single variable that stands for something inside the metrics settings changes these only. -/
theorem load_of_metrics {field : String} {rest : List Step} (only : env.OnlyOverride name text)
    (own : Environment.keyText? name = some key)
    (inside : Key.ofText key = ⟨"metrics", .name field :: rest⟩)
    (named : ∀ i, .index i ∉ rest) :
    load env = (MetricsSettings.read
      (.table (changedMembers field rest (Environment.value key text)))).map fun metrics =>
        { port := 8080, metrics } := by
  have changed := Environment.member?_applyTo_of_onlyOverride only own defaults
  rw [inside] at changed
  have port : (env.applyTo defaults).member? "port" = some (.scalar (.integer 8080)) := by
    rw [changed, if_neg (by simp)]
    rfl
  have metrics : (env.applyTo defaults).member? "metrics" =
      some (.table (changedMembers field rest (Environment.value key text))) := by
    rw [changed, if_pos rfl, changedMembers,
      (leaf_metricsMembers field Node.leaf_empty).put_eq]
    refine congrArg some ((Node.overlay_singleton (.table metricsMembers) field _).trans ?_)
    have below := leaf_metricsMembers field Node.leaf_nil_table
    exact congrArg (fun inner => Node.table (Node.setMember field inner metricsMembers))
      (below.overlay_put (Environment.value_ne_table key text) rest)
  have upward : (Key.ofText key).Upward := by
    rw [inside]
    exact fun i member => absurd (List.mem_of_ne_of_mem (by simp) member) (named i)
  rw [load_eq (Environment.undershoots_of_onlyOverride only own upward),
    read_of_members port metrics]
  rfl

end ServerSettings

end TrafficMeter.Settings

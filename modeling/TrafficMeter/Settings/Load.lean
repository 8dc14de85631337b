import TrafficMeter.Auth.Accounts
import TrafficMeter.Metric.Registry
import TrafficMeter.Settings.Environment
import TrafficMeter.Text.Quoted

/-!
# Loading settings

The settings of the demo server, read from a tree of settings.  A place that wants a scalar takes
what can be converted and refuses the rest; a place that wants a table or a list takes no scalar.

Main statement: `gate_eq_none_iff`, when the exporter is open.
-/

namespace TrafficMeter.Settings

-- Powers are the core library's, also where algebra brings another instance into scope.
attribute [local instance (high)] instPowNat

open TrafficMeter.Decimal (Binary)

/-- What was found at a place that wants something else. -/
inductive Found where
  | nothing
  | scalar (s : Scalar)
  /-- An integer that was converted on the way. -/
  | natural (n : Nat)
  | sequence
  | map
deriving DecidableEq, Repr

/-- What a place for a scalar wants. -/
inductive Wanted where
  | integer
  | natural64
  | natural16
  | number
  | text
deriving DecidableEq, Repr

/-- What a place for a table or a list wants. -/
inductive Shape where
  | map
  | sequence
  | metrics
deriving DecidableEq, Repr

/-- Why settings cannot be loaded. -/
inductive LoadError where
  /-- A value cannot be converted. -/
  | value (key : String) (found : Found) (wanted : Wanted)
  /-- A table or list is wanted. -/
  | shape (found : Found) (wanted : Shape)
  /-- A list of so many items is too short for the metrics settings. -/
  | tooShort (length : Nat)
  /-- A table lacks a member. -/
  | missing (name : String)
  /-- An index of a variable lies below the start of its list, which is a crash. -/
  | undershoot
deriving DecidableEq, Repr

/-- What a node is found to be. -/
def Node.found : Node → Found
  | .empty => .nothing
  | .scalar s => .scalar s
  | .list _ => .sequence
  | .table _ => .map

/-- The words for a find at a place that wants a scalar. -/
def Found.words : Found → String
  | nothing => "unit value"
  | scalar (.bool b) => "boolean `" ++ (Scalar.bool b).toText ++ "`"
  | scalar (.integer i) => "64-bit integer `" ++ Decimal.integer i ++ "`"
  | scalar (.float x) => "floating point `" ++ x.plain ++ "`"
  | scalar (.text s) => "string " ++ Text.quote s
  | natural n => "64-bit unsigned integer `" ++ Decimal.integer n ++ "`"
  | sequence => "sequence"
  | map => "map"

/-- The text of a number that shows a fraction if the number is finite. -/
def pointedText : Binary → String
  | .finite negative s p =>
      String.ofList (Decimal.sign negative ++
        Decimal.pointed ".0".toList (Decimal.shortest .up s p))
  | x => x.plain

/-- The words for a find at a place that wants a table or a list. -/
def Found.shapeWords : Found → String
  | scalar (.integer i) => "integer `" ++ Decimal.integer i ++ "`"
  | scalar (.float x) => "floating point `" ++ pointedText x ++ "`"
  | other => other.words

/-- The words for a wanted scalar. -/
def Wanted.words : Wanted → String
  | integer => "an integer"
  | natural64 => "an unsigned 64 bit or less integer"
  | natural16 => "an unsigned 16 bit integer"
  | number => "a floating point"
  | text => "a string"

/-- The words for a wanted table or list. -/
def Shape.words : Shape → String
  | map => "a map"
  | sequence => "a sequence"
  | metrics => "struct MetricsConfig"

/-- The text of a failure.  A value as it stood in a variable is said to come from there. -/
def LoadError.message : LoadError → String
  | value key found wanted =>
      "invalid type: " ++ found.words ++ ", expected " ++ wanted.words ++ " for key `" ++ key ++
        "`" ++ (match found with
          | .scalar _ => " in the environment"
          | _ => "")
  | shape found wanted => "invalid type: " ++ found.shapeWords ++ ", expected " ++ wanted.words
  | tooShort length =>
      "invalid length " ++ Decimal.integer length ++
        ", expected struct MetricsConfig with 4 elements"
  | missing name => "missing field `" ++ name ++ "`"
  | undershoot => "attempt to subtract with overflow"

namespace Node

/-- The text at a place. -/
def toText (key : String) : Node → Except LoadError String
  | scalar s => .ok s.toText
  | n => .error (.value key n.found .text)

/-- The natural of 64 bits at a place. -/
def toNatural64 (key : String) : Node → Except LoadError Nat
  | scalar (.bool b) => .ok (if b then 1 else 0)
  | scalar (.integer i) =>
      if 0 ≤ i then .ok i.toNat
      else .error (.value key (.scalar (.integer i)) .natural64)
  | scalar (.float x) => .ok (x.toNatAtMost Decimal.maxNatural64)
  | scalar (.text s) =>
      match Scalar.switch? s, Decimal.below? (2 ^ (64 : Nat)) s.toList with
      | some b, _ => .ok (if b then 1 else 0)
      | none, some n => .ok n
      | none, none => .error (.value key (.scalar (.text s)) .integer)
  | n => .error (.value key n.found .integer)

/-- The natural of 16 bits at a place. -/
def toNatural16 (key : String) (n : Node) : Except LoadError Nat := do
  let i ← n.toNatural64 key
  if i < 2 ^ (16 : Nat) then .ok i else .error (.value key (.natural i) .natural16)

/-- The number at a place. -/
def toNumber (key : String) : Node → Except LoadError Float
  | scalar (.bool b) => .ok (if b then 1 else 0)
  | scalar (.integer i) => .ok (Binary.ofInt i).toFloat
  | scalar (.float x) => .ok x.toFloat
  | scalar (.text s) =>
      match Scalar.switch? s, Decimal.number? s.toList with
      | some b, _ => .ok (if b then 1 else 0)
      | none, some x => .ok x.toFloat
      | none, none => .error (.value key (.scalar (.text s)) .number)
  | n => .error (.value key n.found .number)

/-- The numbers of the items of a list, counted from some index. -/
def toNumbers (key : String) (index : Nat) : List Node → Except LoadError (List Float)
  | [] => .ok []
  | n :: rest => do
      let x ← n.toNumber (key ++ "[" ++ Decimal.integer index ++ "]")
      let others ← toNumbers key (index + 1) rest
      .ok (x :: others)

/-- The texts of the members of a table. -/
def toTexts (key : String) : List (String × Node) → Except LoadError (List (String × String))
  | [] => .ok []
  | (name, n) :: rest => do
      let text ← n.toText (key ++ "." ++ name)
      let others ← toTexts key rest
      .ok ((name, text) :: others)

end Node

/-- What is set for the metrics. -/
structure MetricsSettings where
  subsystem : String
  path : String
  quantiles : List Float := []
  accounts : List (String × String) := []

/-- What is set for the server. -/
structure ServerSettings where
  port : Nat
  metrics : MetricsSettings

namespace MetricsSettings

/-- The quantiles at a place, if the place is there. -/
def readQuantiles (key : String) : Option Node → Except LoadError (List Float)
  | none => .ok []
  | some (.list items) => Node.toNumbers key 0 items
  | some n => .error (.shape n.found .sequence)

/-- The accounts at a place, if the place is there. -/
def readAccounts (key : String) : Option Node → Except LoadError (List (String × String))
  | none => .ok []
  | some (.table members) => Node.toTexts key members
  | some n => .error (.shape n.found .map)

/-- A member that must be there. -/
def required (members : List (String × Node)) (name : String) : Except LoadError Node :=
  match members.lookup name with
  | some n => .ok n
  | none => .error (.missing name)

/-- Reads the metrics settings: a table, or a list with a place for each. -/
def read : Node → Except LoadError MetricsSettings
  | .table members => do
      let subsystem ← (← required members "subsystem").toText "metrics.subsystem"
      let path ← (← required members "path").toText "metrics.path"
      let quantiles ← readQuantiles "metrics.quantiles" (members.lookup "quantiles")
      let accounts ← readAccounts "metrics.accounts" (members.lookup "accounts")
      .ok { subsystem, path, quantiles, accounts }
  | .list [] => .error (.tooShort 0)
  | .list (first :: items) => do
      let subsystem ← first.toText "metrics[0]"
      match items with
      | [] => .error (.tooShort 1)
      | second :: rest => do
          let path ← second.toText "metrics[1]"
          let quantiles ← readQuantiles "metrics[2]" rest[0]?
          let accounts ← readAccounts "metrics[3]" rest[1]?
          .ok { subsystem, path, quantiles, accounts }
  | n => .error (.shape n.found .metrics)

/-- A registry with the quantiles that are set, or the usual ones if there are none. -/
def registry (s : MetricsSettings) : Except MeterError Metric.Registry :=
  if s.quantiles.isEmpty then .ok .empty else Metric.Registry.withQuantiles s.quantiles

/-- The accounts of the gate; without any the exporter is open. -/
def gate (s : MetricsSettings) : Except MeterError (Option Auth.Accounts) :=
  if s.accounts.isEmpty then .ok none else (Auth.Accounts.ofList s.accounts).map some

/-- When the exporter is open. -/
theorem gate_eq_none_iff (s : MetricsSettings) : s.gate = .ok none ↔ s.accounts = [] := by
  unfold gate
  by_cases h : s.accounts = []
  · simp [h]
  · simp only [List.isEmpty_iff, h, if_false, iff_false]
    cases Auth.Accounts.ofList s.accounts <;> simp [Except.map]

end MetricsSettings

namespace ServerSettings

/-- The settings that hold unless they are changed. -/
def defaults : Node :=
  .table
    [("metrics", .table
      [("path", .scalar (.text "/metrics")), ("subsystem", .scalar (.text "http"))]),
     ("port", .scalar (.integer 8080))]

/-- Reads the settings of the server from a tree. -/
def read (n : Node) : Except LoadError ServerSettings := do
  let port ← (← MetricsSettings.required n.members "port").toNatural16 "port"
  let metrics ← MetricsSettings.read (← MetricsSettings.required n.members "metrics")
  .ok { port, metrics }

/-- Loads the settings of the server from the environment. -/
def load (env : Environment) : Except LoadError ServerSettings :=
  if env.undershoots then .error .undershoot else read (env.applyTo defaults)

end ServerSettings

end TrafficMeter.Settings

import TrafficMeter.Assoc

/-!
# Series

A series is told apart by its key: a name and labels in their given order.  A table of series
keeps the order in which the series came into being and holds each key once.

Main statement: `Table.find?_alter`, what changing one series does to every series.
-/

namespace TrafficMeter.Metric

/-- What tells series apart. -/
structure Key where
  name : String
  labels : List (String × String)
deriving DecidableEq, Repr

/-- Series of one kind with their values. -/
abbrev Table (α : Type) := List (Key × α)

namespace Table

variable {α : Type}

/-- The value of a series, if it exists. -/
def find? (t : Table α) (k : Key) : Option α := List.lookup k t

/-- Changes a series; one that does not exist yet starts from a given value. -/
def alter (start : α) (change : α → α) (k : Key) : Table α → Table α
  | [] => [(k, change start)]
  | (k', v) :: rest =>
      if k' = k then (k', change v) :: rest else (k', v) :: alter start change k rest

/-- What changing a series does to every series. -/
theorem find?_alter (start : α) (change : α → α) (k k' : Key) (t : Table α) :
    find? (alter start change k t) k' =
      if k' = k then some (change ((find? t k).getD start)) else find? t k' := by
  unfold find?
  fun_induction alter start change k t <;> grind [Assoc.lookup_cons_ite]

end Table

end TrafficMeter.Metric

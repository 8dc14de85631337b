import TrafficMeter.Proofs.Metric.Calls

/-!
# What a write changes

A write goes to one series, or to the help text under one name. Whatever else a registry holds stays
as it is.

Main statement: `changedAt_apply`, that a write changes nothing but its own cell.
-/

namespace TrafficMeter.Metric

/-- What one write of a registry can change. -/
inductive Cell where
  /-- The help text under a name that the page shows. -/
  | help (shown : String)
  | counter (key : Key)
  | gauge (key : Key)
  | summary (key : Key)

/-- What a write changes. -/
def Write.cell : Write → Cell
  | .describe name _ => .help (Name.sanitize name)
  | .add key _ | .raise key _ => .counter key
  | .setGauge key _ | .shiftGauge key _ => .gauge key
  | .sample key _ => .summary key

namespace Registry

/-- Registries that hold the same in a cell. -/
def AgreeAt (r next : Registry) : Cell → Prop
  | .help shown => next.helps.lookup shown = r.helps.lookup shown
  | .counter key => Table.find? next.counters key = Table.find? r.counters key
  | .gauge key => Table.find? next.gauges key = Table.find? r.gauges key
  | .summary key => Table.find? next.summaries key = Table.find? r.summaries key

/-- A registry that is changed in one cell at most. -/
structure ChangedAt (cell : Cell) (r next : Registry) : Prop where
  quantiles : next.quantiles = r.quantiles
  claimed : next.claimed = r.claimed
  others : ∀ other, other ≠ cell → r.AgreeAt next other

theorem AgreeAt.refl (r : Registry) (cell : Cell) : r.AgreeAt r cell := by
  cases cell <;> rfl

/-- A write changes its own cell at most. -/
theorem changedAt_apply (r : Registry) (w : Write) : r.ChangedAt w.cell (r.apply w) := by
  refine ⟨?_, r.apply_claimed w, ?_⟩
  · cases w with
    | describe name help => rw [apply, describe_eq]
    | _ => rfl
  · intro other apart
    cases w with
    | describe name help =>
        cases other with
        | help shown =>
            have here : shown ≠ Name.sanitize name := fun same => apart (congrArg Cell.help same)
            rw [AgreeAt, apply, lookup_describe, Assoc.lookup_cons_ite, if_neg here,
              List.lookup_nil, Option.or_none]
        | counter key | gauge key | summary key =>
            rw [apply, describe_eq]
            rfl
    | add key amount | raise key amount =>
        cases other with
        | counter key' => exact Table.find?_alter_of_ne (fun same => apart (congrArg _ same)) _
        | _ => rfl
    | setGauge key value | shiftGauge key value =>
        cases other with
        | gauge key' => exact Table.find?_alter_of_ne (fun same => apart (congrArg _ same)) _
        | _ => rfl
    | sample key values =>
        cases other with
        | summary key' => exact Table.find?_alter_of_ne (fun same => apart (congrArg _ same)) _
        | _ => rfl

/-- Writes to other cells leave a counter as it is. -/
theorem counter_applyAll {key : Key} {ws : List Write}
    (others : ∀ w ∈ ws, w.cell ≠ .counter key) (r : Registry) :
    Table.find? (r.applyAll ws).counters key = Table.find? r.counters key := by
  induction ws generalizing r with
  | nil => rfl
  | cons w ws ih =>
      have first := (r.changedAt_apply w).others _ (others w List.mem_cons_self).symm
      have rest := ih (fun v later => others v (List.mem_cons_of_mem w later)) (r.apply w)
      exact rest.trans first

end Registry

end TrafficMeter.Metric

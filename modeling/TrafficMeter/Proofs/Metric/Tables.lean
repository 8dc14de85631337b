import Mathlib.Algebra.Ring.Nat
import TrafficMeter.Metric.Series

/-!
# Tables under change

Series that are told apart by their names do not disturb each other, and a counter that is
incremented once for each item of a list counts the items, as far as 64 bits can.

Main statements: `find?_countAll`, what each series shows after such a count, `mem_countAll`, which
series there are then, and `total_countAll`, what all series show together.
-/

namespace TrafficMeter.Metric.Table

variable {α β ι : Type} {start : α} {change : α → α} {k : Key} {name : String}

/-- A changed series that is selected by its key is changed among the selected ones. -/
theorem filter_alter_of_pos {p : Key → Bool} (selected : p k = true) (t : Table α) :
    (alter start change k t).filter (fun e => p e.1) =
      alter start change k (t.filter fun e => p e.1) := by
  induction t with
  | nil => simp [alter, selected]
  | cons e rest ih =>
      obtain ⟨other, v⟩ := e
      by_cases same : other = k
      · subst same
        simp [alter, selected]
      · cases chosen : p other <;> simp [alter, same, chosen, ih]

/-- A changed series that is not selected by its key leaves the selected ones. -/
theorem filter_alter_of_neg {p : Key → Bool} (left : p k = false) (t : Table α) :
    (alter start change k t).filter (fun e => p e.1) = t.filter fun e => p e.1 := by
  induction t with
  | nil => simp [alter, left]
  | cons e rest ih =>
      obtain ⟨other, v⟩ := e
      by_cases same : other = k
      · subst same
        simp [alter, left]
      · simp [alter, same, List.filter_cons, ih]

/-- The changed series is among those of its name. -/
theorem filter_alter_of_eq (h : k.name = name) (t : Table α) :
    (alter start change k t).filter (·.1.name = name) =
      alter start change k (t.filter (·.1.name = name)) :=
  filter_alter_of_pos (p := fun k => k.name = name) (decide_eq_true h) t

/-- The changed series is not among those of another name. -/
theorem filter_alter_of_ne (h : k.name ≠ name) (t : Table α) :
    (alter start change k t).filter (·.1.name = name) = t.filter (·.1.name = name) :=
  filter_alter_of_neg (p := fun k => k.name = name) (decide_eq_false h) t

theorem find?_alter_of_ne {k' : Key} (other : k' ≠ k) (t : Table α) :
    find? (alter start change k t) k' = find? t k' := by
  rw [find?_alter, if_neg other]

theorem find?_map (f : α → β) (t : Table α) (k : Key) :
    find? (t.map fun (key, v) => (key, f v)) k = (find? t k).map f := by
  induction t with
  | nil => rfl
  | cons e rest ih =>
      obtain ⟨other, v⟩ := e
      simp only [find?, List.map_cons, Assoc.lookup_cons_ite] at ih ⊢
      rw [ih]
      split <;> rfl

/-- Increments the series of each item in turn. -/
def countAll (key : ι → Key) (items : List ι) (t : Table UInt64) : Table UInt64 :=
  items.foldl (fun t i => alter 0 (· + 1) (key i) t) t

/-- What the series of all keys show together. -/
def total (t : Table UInt64) : Nat := (t.map (·.2.toNat)).sum

/-- Each series is raised by the number of its items. A series without items is left alone, and in
particular is not created. -/
theorem find?_countAll (key : ι → Key) (items : List ι) (t : Table UInt64) (k : Key) :
    find? (countAll key items t) k =
      if items.countP (key · = k) = 0 then find? t k
      else some ((find? t k).getD 0 + UInt64.ofNat (items.countP (key · = k))) := by
  induction items generalizing t with
  | nil => simp [countAll]
  | cons i rest ih =>
      have step := ih (alter 0 (· + 1) (key i) t)
      rw [find?_alter] at step
      simp only [countAll, List.foldl_cons] at step ⊢
      rw [step]
      by_cases h : key i = k
      · simp only [h, List.countP_cons, if_true, decide_true, Option.getD_some]
        by_cases hn : rest.countP (key · = k) = 0
        · simp [hn]
        · rw [if_neg hn, if_neg (Nat.succ_ne_zero _), UInt64.ofNat_add, UInt64.add_assoc,
            UInt64.add_comm 1]
          rfl
      · simp [h, Ne.symm h]

theorem mem_keys_alter {t : Table α} {k' : Key} :
    k' ∈ (alter start change k t).map Prod.fst ↔ k' = k ∨ k' ∈ t.map Prod.fst := by
  induction t with
  | nil => simp [alter]
  | cons e rest ih =>
      obtain ⟨other, v⟩ := e
      by_cases same : other = k
      · subst same
        simp [alter]
      · simp only [alter, same, if_false, List.map_cons, List.mem_cons, ih]
        exact or_left_comm

theorem nodup_alter {t : Table α} (distinct : (t.map Prod.fst).Nodup) :
    ((alter start change k t).map Prod.fst).Nodup := by
  induction t with
  | nil => simp [alter]
  | cons e rest ih =>
      obtain ⟨other, v⟩ := e
      obtain ⟨new, distinct⟩ := List.nodup_cons.mp distinct
      rw [alter]
      split
      · exact List.nodup_cons.mpr ⟨new, distinct⟩
      · next different =>
          refine List.nodup_cons.mpr ⟨fun member => ?_, ih distinct⟩
          exact (mem_keys_alter.mp member).elim different new

theorem nodup_countAll (key : ι → Key) (items : List ι) {t : Table UInt64}
    (distinct : (t.map Prod.fst).Nodup) : ((countAll key items t).map Prod.fst).Nodup := by
  induction items generalizing t with
  | nil => exact distinct
  | cons i rest ih => exact ih (nodup_alter distinct)

/-- Among different keys, each series is the one that is found. -/
theorem mem_iff_find? {t : Table α} (distinct : (t.map Prod.fst).Nodup) {v : α} :
    (k, v) ∈ t ↔ find? t k = some v := by
  induction t with
  | nil => simp [find?]
  | cons e rest ih =>
      obtain ⟨other, w⟩ := e
      obtain ⟨new, distinct⟩ := List.nodup_cons.mp distinct
      have tail := ih distinct
      simp only [find?] at tail
      rw [List.mem_cons, Prod.mk.injEq, find?, Assoc.lookup_cons_ite]
      by_cases same : k = other
      · subst same
        have absent : (k, v) ∉ rest := fun member => new (List.mem_map.mpr ⟨_, member, rfl⟩)
        simp [absent, eq_comm]
      · simp [same, tail]

/-- A series exists after a count from nothing if it has items, and shows their number. -/
theorem mem_countAll {key : ι → Key} {items : List ι} {v : UInt64} :
    (k, v) ∈ countAll key items [] ↔
      items.countP (key · = k) ≠ 0 ∧ v = UInt64.ofNat (items.countP (key · = k)) := by
  rw [mem_iff_find? (nodup_countAll key items (by simp)), find?_countAll]
  split
  · next none => simp [none, find?]
  · next some =>
      rw [and_iff_right some]
      simp [find?, @eq_comm _ v]

theorem total_alter (k : Key) (t : Table UInt64) :
    total (alter 0 (· + 1) k t) % 2 ^ 64 = (total t + 1) % 2 ^ 64 := by
  induction t with
  | nil => simp [alter, total]
  | cons e rest ih =>
      obtain ⟨other, v⟩ := e
      simp only [total] at ih
      by_cases h : other = k
      · simp only [alter, h, if_true, total, List.map_cons, List.sum_cons, UInt64.toNat_add]
        have : (1 : UInt64).toNat = 1 := rfl
        omega
      · simp only [alter, h, if_false, total, List.map_cons, List.sum_cons]
        omega

theorem total_alter_le (k : Key) (t : Table UInt64) :
    total (alter 0 (· + 1) k t) ≤ total t + 1 := by
  induction t with
  | nil => simp [alter, total]
  | cons e rest ih =>
      obtain ⟨other, v⟩ := e
      simp only [total] at ih
      by_cases h : other = k
      · simp only [alter, h, if_true, total, List.map_cons, List.sum_cons, UInt64.toNat_add]
        have : (1 : UInt64).toNat = 1 := rfl
        omega
      · simp only [alter, h, if_false, total, List.map_cons, List.sum_cons]
        omega

/-- A series that is only got counts nothing. -/
theorem total_alter_zero (k : Key) (t : Table UInt64) :
    total (alter 0 (· + 0) k t) = total t := by
  induction t with
  | nil => simp [alter, total]
  | cons e rest ih =>
      obtain ⟨other, v⟩ := e
      simp only [total] at ih
      by_cases h : other = k
      · simp [alter, h, total]
      · simp only [alter, h, if_false, total, List.map_cons, List.sum_cons, ih]

/-- Among the series that are selected by their keys, only the items of these are counted. -/
theorem filter_countAll (p : Key → Bool) (key : ι → Key) (items : List ι) (t : Table UInt64) :
    (countAll key items t).filter (fun e => p e.1) =
      countAll key (items.filter fun i => p (key i)) (t.filter fun e => p e.1) := by
  induction items generalizing t with
  | nil => rfl
  | cons i rest ih =>
      refine (ih _).trans ?_
      rw [List.filter_cons]
      cases chosen : p (key i) with
      | true =>
          rw [filter_alter_of_pos chosen]
          rfl
      | false =>
          rw [filter_alter_of_neg chosen]
          rfl

/-- No item is counted twice. -/
theorem total_countAll_le (key : ι → Key) (items : List ι) (t : Table UInt64) :
    total (countAll key items t) ≤ total t + items.length := by
  induction items generalizing t with
  | nil => exact Nat.le_refl _
  | cons i rest ih =>
      have step := ih (alter 0 (· + 1) (key i) t)
      have one := total_alter_le (key i) t
      simp only [countAll, List.foldl_cons] at step ⊢
      rw [List.length_cons]
      omega

/-- All series together count all items. -/
theorem total_countAll (key : ι → Key) (items : List ι) (t : Table UInt64) :
    total (countAll key items t) % 2 ^ 64 = (total t + items.length) % 2 ^ 64 := by
  induction items generalizing t with
  | nil => rfl
  | cons i rest ih =>
      have step := ih (alter 0 (· + 1) (key i) t)
      have one := total_alter (key i) t
      simp only [countAll, List.foldl_cons] at step ⊢
      rw [step, List.length_cons]
      omega

end TrafficMeter.Metric.Table

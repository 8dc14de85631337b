/-!
# Association lists

Lists of pairs in which each key comes once.  Setting a key anew keeps its place.

Main statements: `lookup_put`, what setting a key does to every key, and `putAll_of_nodup`, that
pairs with different keys are kept as they are.
-/

namespace TrafficMeter.Assoc

variable {α : Type}

/-- Sets the value of a key. -/
def put (key : String) (v : α) : List (String × α) → List (String × α)
  | [] => [(key, v)]
  | (k, w) :: rest => if k = key then (key, v) :: rest else (k, w) :: put key v rest

/-- Sets keys one after the other, starting from nothing: a repeated key keeps its first place and
takes the last value. -/
def putAll (pairs : List (String × α)) : List (String × α) :=
  pairs.foldl (fun done p => put p.1 p.2 done) []

/-- Looking up a key tries the first entry, then the others. -/
theorem lookup_cons_ite {κ : Type} [DecidableEq κ] (k key : κ) (v : α) (l : List (κ × α)) :
    ((key, v) :: l).lookup k = if k = key then some v else l.lookup k := by
  by_cases h : k = key
  · simp [h]
  · simp [List.lookup_cons, h, beq_eq_false_iff_ne.mpr h]

/-- What setting a key does to every key. -/
theorem lookup_put (key : String) (v : α) (l : List (String × α)) (k : String) :
    (put key v l).lookup k = if k = key then some v else l.lookup k := by
  fun_induction put key v l <;> grind [lookup_cons_ite]

/-- A key that is new goes to the end. -/
theorem put_of_not_mem {key : String} {v : α} {l : List (String × α)}
    (h : key ∉ l.map Prod.fst) : put key v l = l ++ [(key, v)] := by
  induction l with
  | nil => rfl
  | cons e rest ih =>
      simp only [List.map_cons, List.mem_cons, not_or] at h
      simp [put, Ne.symm h.1, ih h.2]

/-- Pairs with different keys are kept as they are. -/
theorem putAll_of_nodup {pairs : List (String × α)} (h : (pairs.map Prod.fst).Nodup) :
    putAll pairs = pairs := by
  have go : ∀ (todo done : List (String × α)), ((done ++ todo).map Prod.fst).Nodup →
      todo.foldl (fun done p => put p.1 p.2 done) done = done ++ todo := by
    intro todo
    induction todo with
    | nil => simp
    | cons p rest ih =>
        intro done hn
        have hp : p.1 ∉ done.map Prod.fst := by
          intro hm
          simp only [List.map_append, List.map_cons] at hn
          exact (List.nodup_append.mp hn).2.2 p.1 hm p.1 List.mem_cons_self rfl
        rw [List.foldl_cons, put_of_not_mem hp, ih (done ++ [(p.1, p.2)]) (by simpa using hn)]
        simp
  exact go pairs [] (by simpa using h)

/-- Keys whose repetitions are left out come once each. -/
theorem nodup_eraseDups (names : List String) : names.eraseDups.Nodup := by
  induction count : names.length using Nat.strongRecOn generalizing names with
  | ind size ih =>
      cases names with
      | nil => exact List.nodup_nil
      | cons first rest =>
          have shorter : (rest.filter fun n => !n == first).length < size := by
            rw [← count]
            exact Nat.lt_succ_of_le (List.length_filter_le _ _)
          rw [List.eraseDups_cons, List.nodup_cons]
          refine ⟨fun again => ?_, ih _ shorter _ rfl⟩
          have other := (List.mem_filter.mp (List.mem_eraseDups.mp again)).2
          simp at other

end TrafficMeter.Assoc

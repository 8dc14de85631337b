import TrafficMeter.Proofs.Traffic.Readings

/-!
# What a body owes

A body owes the requests that closing it would hand out. Data makes the owed response sizes grow,
the end hands all of them out and leaves nothing owed, and every other answer changes nothing. So
each request is handed out once, whatever the order of polls and however early the body is closed.

Main statement: `Body.poll_cases`, what a poll does to the owed requests.
-/

namespace TrafficMeter.Traffic

open TrafficMeter.Http (Poll)

/-- The request with so many more bytes of its response written. -/
def Pending.grow (n : Nat) (q : Pending) : Pending :=
  { q with observation :=
      { q.observation with responseSize := q.observation.responseSize + UInt64.ofNat n } }

theorem Pending.grow_zero (q : Pending) : q.grow 0 = q := by
  have h : q.observation.responseSize + UInt64.ofNat 0 = q.observation.responseSize :=
    UInt64.add_zero _
  rw [Pending.grow, h]

namespace Body

theorem settled_grow (pending : Option Pending) (written : UInt64) (n : Nat) :
    settled pending (written + UInt64.ofNat n) = (settled pending written).map (·.grow n) := by
  cases pending <;> rfl

/-- A poll either finds the end and hands out all that is owed, or hands out nothing and lets the
owed sizes grow by the bytes of its data. -/
theorem poll_cases {b after : Body} {p : Poll} {done : List Pending}
    (h : b.poll = (p, after, done)) :
    (p = .finished ∧ done.Perm b.close ∧ after.close = []) ∨
      (p ≠ .finished ∧ done = [] ∧ after.close = b.close.map (·.grow p.dataBytes)) := by
  induction b generalizing p after done with
  | plain source =>
      cases h
      by_cases finished : source.poll.1 = .finished
      · exact .inl ⟨finished, .nil, rfl⟩
      · exact .inr ⟨finished, rfl, rfl⟩
  | metered pending written inner ih =>
      obtain ⟨p', next, handed, polled⟩ : ∃ p' next handed, inner.poll = (p', next, handed) :=
        ⟨_, _, _, rfl⟩
      rw [poll, polled] at h
      rcases ih polled with ⟨rfl, all, none⟩ | ⟨going, rfl, grown⟩
      · cases h
        refine .inl ⟨rfl, ?_, ?_⟩
        · exact (all.append_right _).trans List.perm_append_comm
        · rw [close, none]
          rfl
      · cases p' with
        | finished => exact absurd rfl going
        | data text =>
            cases h
            refine .inr ⟨going, rfl, ?_⟩
            rw [close, settled_grow, grown, close, List.map_append]
            rfl
        | pending | trailers fields | failed message =>
            cases h
            refine .inr ⟨going, rfl, ?_⟩
            have still : (settled pending written).map (·.grow 0) = settled pending written := by
              simp [Pending.grow_zero]
            rw [close, grown, close, List.map_append]
            exact congrArg (· ++ _) still.symm

end Body

/-- Whoever a request is meant for stays the same while its response grows. -/
theorem Collectors.due_grow (c : Collectors) (n : Nat) (owed : List Pending) :
    c.due (owed.map (·.grow n)) =
      (c.due owed).map fun o => { o with responseSize := o.responseSize + UInt64.ofNat n } := by
  induction owed with
  | nil => rfl
  | cons q owed ih =>
      by_cases own : q.collectors = c
      · simp only [due, Pending.grow, List.map_cons, List.filter_cons, own, decide_true,
          if_true] at ih ⊢
        rw [ih]
      · simp only [due, Pending.grow, List.map_cons, List.filter_cons, own, decide_false] at ih ⊢
        exact ih

theorem Collectors.due_perm (c : Collectors) {done owed : List Pending} (h : done.Perm owed) :
    (c.due done).Perm (c.due owed) :=
  (h.filter _).map _

/-- Nothing is due to families that all others are apart from. -/
theorem Collectors.due_of_apart {c : Collectors} {owed : List Pending}
    (h : ∀ q ∈ owed, q.collectors.Apart c) : c.due owed = [] := by
  have none : owed.filter (·.collectors = c) = [] := by
    apply List.filter_eq_nil_iff.mpr
    intro q hq own
    simp only [decide_eq_true_eq] at own
    have apart := h q hq
    rw [own] at apart
    exact apart rfl c.requests List.mem_cons_self List.mem_cons_self
  rw [due, none]
  rfl

end TrafficMeter.Traffic

/-!
# Samples

A summary takes samples in as they come and adds them up when a page is made.  Until then they
wait in blocks of equal size, of which only the last may be shorter.  A page adds the newest block
first, and the samples of one block in the order in which they came.  As sums of machine numbers
are rounded, this order can be seen in the last digits of a sum.

Main statements: `toList_perm`, that the order is all that a page changes, and `toList_tally`,
that a second page finds the samples as the first one left them.
-/

namespace TrafficMeter.Metric

/-- The samples of a summary. -/
structure Samples where
  /-- What was added up by pages, in the order of the sum. -/
  tallied : List Float := []
  /-- What came since the last page, in the order in which it came. -/
  waiting : List Float := []
deriving Repr

namespace Samples

/-- The most samples of a block. -/
def blockSize : Nat := 64

/-- The values of a list, taken block by block from the last one to the first. -/
def newestFirst {α : Type} (values : List α) : List α :=
  if values.length ≤ blockSize then values
  else newestFirst (values.drop blockSize) ++ values.take blockSize
termination_by values.length
decreasing_by simp only [List.length_drop, blockSize] at *; omega

/-- Takes samples in. -/
def add (s : Samples) (values : List Float) : Samples := { s with waiting := s.waiting ++ values }

/-- All samples, in the order in which a page that is made now adds them up. -/
def toList (s : Samples) : List Float := s.tallied ++ newestFirst s.waiting

/-- Adds up what waits. -/
def tally (s : Samples) : Samples := { tallied := s.toList }

/-- Nothing comes from no blocks. -/
@[simp] theorem newestFirst_nil {α : Type} : newestFirst ([] : List α) = [] := by
  unfold newestFirst
  simp

/-- Going through the blocks from the last one loses and repeats nothing. -/
theorem newestFirst_perm {α : Type} (values : List α) : (newestFirst values).Perm values := by
  fun_induction newestFirst values with
  | case1 values _ => exact .refl values
  | case2 values _ ih =>
      have h := (ih.append_right (values.take blockSize)).trans List.perm_append_comm
      rwa [List.take_append_drop] at h

/-- A page finds the samples that came, in whatever order. -/
theorem toList_perm (s : Samples) : s.toList.Perm (s.tallied ++ s.waiting) :=
  (newestFirst_perm s.waiting).append_left s.tallied

/-- A second page finds the samples as the first one left them. -/
@[simp] theorem toList_tally (s : Samples) : s.tally.toList = s.toList := by
  simp [tally, toList]

end Samples

end TrafficMeter.Metric

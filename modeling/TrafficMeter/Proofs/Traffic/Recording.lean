import Mathlib.Algebra.Ring.Nat
import Mathlib.Data.List.Perm.Basic
import TrafficMeter.Traffic.Response

/-!
# When a body records its request

The life of a body is a number of polls, and then it is given up. A metered body hands its request
out at one moment of its life: at the poll that first finds the end of the body inside it, or else
when it is given up. The size that goes with it is that of the data before this moment. All answers
are those of the body inside.

Main statement: `recorded_once`.
-/

namespace TrafficMeter.Traffic

open TrafficMeter.Http (Poll Source)

-- Sums start at the core library's zero, also where algebra brings another instance into scope.
attribute [local instance (high)] Zero.ofOfNat0

namespace Body

/-- The answers to so many polls. -/
def answers : Body → Nat → List Poll
  | _, 0 => []
  | b, n + 1 => b.poll.1 :: answers b.poll.2.1 n

/-- The requests done at each moment of a life of so many polls; the last moment is that at which
the body is given up. -/
def moments : Body → Nat → List (List Pending)
  | b, 0 => [b.close]
  | b, n + 1 => b.poll.2.2 :: moments b.poll.2.1 n

/-- The answers before the first end. -/
def opening (b : Body) (n : Nat) : List Poll := (b.answers n).takeWhile (· ≠ .finished)

/-- The bytes of data before the first end. -/
def openingBytes (b : Body) (n : Nat) : Nat := ((b.opening n).map Poll.dataBytes).sum

end Body

/-- Nothing at each of some moments, except one item at one of them. -/
def onceAt {α : Type} (x : α) (moment polls : Nat) : List (List α) :=
  (List.replicate (polls + 1) []).set moment [x]

theorem nothing_zipWith {α : Type} (ls : List (List α)) :
    List.zipWith (· ++ ·) (List.replicate ls.length []) ls = ls := by
  induction ls with
  | nil => rfl
  | cons l ls ih =>
      rw [List.length_cons, List.replicate_succ, List.zipWith_cons_cons, ih, List.nil_append]

theorem zipWith_nothing {α : Type} (ls : List (List α)) :
    List.zipWith (· ++ ·) ls (List.replicate ls.length []) = ls := by
  induction ls with
  | nil => rfl
  | cons l ls ih =>
      rw [List.length_cons, List.replicate_succ, List.zipWith_cons_cons, ih, List.append_nil]

theorem length_onceAt {α : Type} (x : α) (moment polls : Nat) :
    (onceAt x moment polls).length = polls + 1 := by
  rw [onceAt, List.length_set, List.length_replicate]

theorem flatten_onceAt {α : Type} (x : α) {moment polls : Nat} (inside : moment ≤ polls) :
    (onceAt x moment polls).flatten = [x] := by
  rw [onceAt, List.set_eq_take_append_cons_drop, if_pos (by simpa using Nat.lt_succ_of_le inside)]
  simp

namespace Body

theorem length_answers (b : Body) (n : Nat) : (b.answers n).length = n := by
  induction n generalizing b with
  | zero => rfl
  | succ n ih => rw [answers, List.length_cons, ih]

theorem length_moments (b : Body) (n : Nat) : (b.moments n).length = n + 1 := by
  induction n generalizing b with
  | zero => rfl
  | succ n ih => rw [moments, List.length_cons, ih]

theorem length_opening_le (b : Body) (n : Nat) : (b.opening n).length ≤ n := by
  have part := (List.takeWhile_sublist (· ≠ Poll.finished) (l := b.answers n)).length_le
  rwa [length_answers] at part

/-- A stream answers what its script says, whatever that is, and then it only says that it has
ended. -/
theorem answers_stream (script : List Poll) (n : Nat) :
    (plain (.stream script)).answers n =
      script.take n ++ List.replicate (n - script.length) .finished := by
  induction n generalizing script with
  | zero => simp [answers]
  | succ n ih =>
      cases script with
      | nil =>
          rw [answers, poll, Source.poll, ih]
          simp [List.replicate_succ]
      | cons p rest =>
          rw [answers, poll, Source.poll, ih]
          simp

theorem answers_metered (pending : Option Pending) (written : UInt64) (inner : Body) (n : Nat) :
    (metered pending written inner).answers n = inner.answers n := by
  induction n generalizing pending written inner with
  | zero => rfl
  | succ n ih =>
      obtain ⟨p, next, done, polled⟩ : ∃ p next done, inner.poll = (p, next, done) := ⟨_, _, _, rfl⟩
      rw [answers, answers, poll_metered_fst, poll, polled]
      cases p <;> rw [ih]

variable {inner next : Body} {p : Poll} {done : List Pending}

/-- Before the end, a metered body counts the bytes of data and hands out nothing of its own. -/
theorem poll_metered_going (polled : inner.poll = (p, next, done)) (going : p ≠ .finished)
    (pending : Option Pending) (written : UInt64) :
    (metered pending written inner).poll =
      (p, metered pending (written + UInt64.ofNat p.dataBytes) next, done) := by
  have still : written + UInt64.ofNat 0 = written := UInt64.add_zero written
  rw [poll, polled]
  cases p with
  | finished => exact absurd rfl going
  | data text => rfl
  | pending | trailers fields | failed message => simp only [Poll.dataBytes, still]

/-- At the end, a metered body hands out its request, if it still has one. -/
theorem poll_metered_finished (polled : inner.poll = (.finished, next, done))
    (pending : Option Pending) (written : UInt64) :
    (metered pending written inner).poll =
      (.finished, metered none written next, done ++ settled pending written) := by
  rw [poll, polled]

/-- A metered body that has recorded its request hands out nothing of its own any more. -/
theorem moments_recorded (written : UInt64) (inner : Body) (n : Nat) :
    (metered none written inner).moments n = inner.moments n := by
  induction n generalizing written inner with
  | zero => rfl
  | succ n ih =>
      obtain ⟨p, next, done, polled⟩ : ∃ p next done, inner.poll = (p, next, done) := ⟨_, _, _, rfl⟩
      by_cases finished : p = .finished
      · subst finished
        rw [moments, moments, poll_metered_finished polled, polled, ih]
        simp [settled]
      · rw [moments, moments, poll_metered_going polled finished, polled, ih]

theorem opening_finished (polled : inner.poll = (.finished, next, done)) (n : Nat) :
    inner.opening (n + 1) = [] := by
  rw [opening, answers, polled]
  rfl

theorem opening_going (polled : inner.poll = (p, next, done)) (going : p ≠ .finished) (n : Nat) :
    inner.opening (n + 1) = p :: next.opening n := by
  rw [opening, answers, polled, List.takeWhile_cons_of_pos (by simpa using going)]
  rfl

/-- A metered body that has not recorded its request yet does so once: with the bytes that were
counted so far, and those until the end. -/
theorem moments_metered (r : Pending) (written : UInt64) (inner : Body) (n : Nat) :
    List.Forall₂ List.Perm ((metered (some r) written inner).moments n)
      (List.zipWith (· ++ ·)
        (onceAt (r.settle (written + UInt64.ofNat (inner.openingBytes n)))
          (inner.opening n).length n)
        (inner.moments n)) := by
  have still : ∀ w : UInt64, w + UInt64.ofNat 0 = w := UInt64.add_zero
  induction n generalizing written inner with
  | zero =>
      refine .cons ?_ .nil
      simp only [openingBytes, opening, answers, List.takeWhile_nil, List.map_nil, List.sum_nil,
        still]
      exact .refl _
  | succ n ih =>
      obtain ⟨p, next, done, polled⟩ : ∃ p next done, inner.poll = (p, next, done) := ⟨_, _, _, rfl⟩
      by_cases finished : p = .finished
      · -- the end: the request goes out now, and nothing is left for later moments
        subst finished
        have nothing := nothing_zipWith (next.moments n)
        rw [length_moments] at nothing
        simp only [moments, poll_metered_finished polled, polled, openingBytes,
          opening_finished polled, List.map_nil, List.sum_nil, List.length_nil, still, onceAt,
          List.replicate_succ (n := n + 1), List.set_cons_zero, List.zipWith_cons_cons,
          moments_recorded, nothing]
        exact .cons List.perm_append_comm (List.forall₂_same.mpr fun _ _ => .refl _)
      · -- the data of this answer is counted with what was counted before
        have counted : written + UInt64.ofNat (inner.openingBytes (n + 1)) =
            written + UInt64.ofNat p.dataBytes + UInt64.ofNat (next.openingBytes n) := by
          rw [openingBytes, opening_going polled finished, List.map_cons, List.sum_cons,
            UInt64.ofNat_add, ← UInt64.add_assoc, openingBytes]
        simp only [moments, poll_metered_going polled finished, polled, counted,
          opening_going polled finished, List.length_cons, onceAt,
          List.replicate_succ (n := n + 1), List.set_cons_succ, List.zipWith_cons_cons,
          List.nil_append]
        exact .cons (.refl _) (ih _ next)

/-- A plain body has no requests of its own. -/
theorem moments_plain (source : Source) (n : Nat) :
    (plain source).moments n = List.replicate (n + 1) [] := by
  induction n generalizing source with
  | zero => rfl
  | succ n ih =>
      rw [moments, List.replicate_succ, ← ih]
      rfl

end Body

namespace Telemetry

/-- Asks a body so many times and gives it up. -/
def live (t : Telemetry) (b : Body) : Nat → Telemetry
  | 0 => t.close b
  | n + 1 => live (t.poll b).1 (t.poll b).2.2 n

/-- Over its life a body records what it hands out at its moments. -/
theorem live_eq (t : Telemetry) (b : Body) (n : Nat) :
    t.live b n = t.settle (b.moments n).flatten := by
  induction n generalizing t b with
  | zero => simp [live, Body.moments, close]
  | succ n ih =>
      rw [live, ih, Body.moments, List.flatten_cons, settle, settle, List.foldl_append]
      rfl

end Telemetry

/-- A metered body answers what the body inside it answers, and hands its request out at one moment:
at the first end, which comes after as many polls as there are answers before it, or else at the
last moment. The request goes out with the bytes of data before the end, counted in 64 bits. So if
the inner body hands out nothing, the life of the metered one makes one observation. -/
theorem recorded_once (r : Pending) (inner : Body) (n : Nat) :
    ∃ size : UInt64, size.toNat = inner.openingBytes n % 2 ^ 64 ∧
      (Body.metered (some r) 0 inner).answers n = inner.answers n ∧
      (inner.opening n).length ≤ n ∧
      List.Forall₂ List.Perm ((Body.metered (some r) 0 inner).moments n)
        (List.zipWith (· ++ ·) (onceAt (r.settle size) (inner.opening n).length n)
          (inner.moments n)) ∧
      ∀ source, inner = .plain source → ∀ t : Telemetry,
        t.live (.metered (some r) 0 inner) n =
          Collectors.observe
            (t.note (.requestRecorded r.observation.status r.observation.method r.observation.path
              size))
            r.collectors { r.observation with responseSize := size } := by
  have handed := Body.moments_metered r 0 inner n
  rw [UInt64.zero_add] at handed
  refine ⟨UInt64.ofNat (inner.openingBytes n), UInt64.toNat_ofNat', inner.answers_metered _ _ n,
    inner.length_opening_le n, handed, ?_⟩
  rintro source rfl t
  have nothing := zipWith_nothing (onceAt
    (r.settle (UInt64.ofNat (Body.openingBytes (.plain source) n)))
    (Body.opening (.plain source) n).length n)
  rw [length_onceAt] at nothing
  rw [Body.moments_plain, nothing] at handed
  have single := List.Perm.flatten_congr handed
  rw [flatten_onceAt _ (Body.length_opening_le _ n), List.perm_singleton] at single
  rw [Telemetry.live_eq, single]
  rfl

/-- A body that fails and goes on, and has more data after its end. -/
def wayward : Source :=
  .stream [.data "ab", .pending, .failed "lost", .trailers [("grade", "a")], .data "c", .finished,
    .data "late", .finished]

/-- Of such a body three bytes are recorded, at its first end. -/
theorem recorded_once_wayward :
    ∃ size : UInt64, size.toNat = 3 ∧ (Body.plain wayward).opening 8 =
        [.data "ab", .pending, .failed "lost", .trailers [("grade", "a")], .data "c"] ∧
      Body.plain wayward = .plain wayward ∧
      Telemetry.live {}
          (.metered (some ⟨Collectors.ofSubsystem 0 "http", ⟨200, "GET", "/", 0, 13, 0⟩⟩) 0
            (.plain wayward)) 8 =
        Collectors.observe (Telemetry.note {} (.requestRecorded 200 "GET" "/" size))
          (Collectors.ofSubsystem 0 "http") ⟨200, "GET", "/", 0, 13, size⟩ := by
  have opening : (Body.plain wayward).opening 8 =
      [.data "ab", .pending, .failed "lost", .trailers [("grade", "a")], .data "c"] := by
    decide +kernel
  obtain ⟨size, bytes, -, -, -, lived⟩ := recorded_once
    ⟨Collectors.ofSubsystem 0 "http", ⟨200, "GET", "/", 0, 13, 0⟩⟩ (.plain wayward) 8
  refine ⟨size, ?_, opening, rfl, lived wayward rfl {}⟩
  rw [bytes, Body.openingBytes, opening]
  decide +kernel

end TrafficMeter.Traffic

import TrafficMeter.Routing.Bundle

/-!
# Patterns that cannot stand beside others

A new pattern is followed through those there are.  It clashes with them if it ends where one of
them ends, or if it has a capture where they have a capture of the other kind; captures of
segments are alike whatever their names.  A capture of the rest must end its pattern, and must
follow a slash unless the pattern parts from the others right there.

A clash is reported by one of the patterns that go on from the point of the clash: bytes are
followed before captures, and of several bytes the one that most patterns go on with.  If what was
passed already ends with the bytes that are common at that point, those bytes are left out of the
report.

Main statement: `check_nil_plain`, that a pattern without captures can be the first one.
-/

namespace TrafficMeter.Routing

namespace Bundle

variable {α : Type}

/-- The byte that occurs most often; of several the one that was first to do so. -/
def mostFrequent (bs : List UInt8) : Option UInt8 :=
  let step := fun (best : Option UInt8 × Nat × List UInt8) (c : UInt8) =>
    let (top, most, seen) := best
    let count := seen.count c + 1
    if most < count then (some c, count, c :: seen) else (top, most, c :: seen)
  (bs.foldl step (none, 0, [])).1

/-- The next bytes of the patterns that go on with one. -/
def nextBytes (b : Bundle α) : List UInt8 :=
  b.filterMap fun
    | (.byte c :: _, _) => some c
    | _ => none

/-- The pattern that stands for a bundle in a report.  Fuel of the length of the longest pattern
and one more is enough. -/
def foremost : Nat → Bundle α → Option α
  | 0, _ => none
  | fuel + 1, b =>
      let node := b.after b.label.length
      match mostFrequent node.nextBytes with
      | some c => foremost fuel (node.branch c)
      | none =>
          if node.segments.deeper.isEmpty then
            (node.segments ++ node.rests ++ node).head?.map (·.2)
          else foremost fuel node.segments.deeper

end Bundle

namespace Piece

/-- Pieces as they are written, with captures of segments named by their number. -/
def numbered : Nat → List Piece → List UInt8
  | _, [] => []
  | n, segment _ :: ps => 0x3a :: (0x61 + UInt8.ofNat n) :: numbered (n + 1) ps
  | n, p :: ps => p.written ++ numbered n ps

/-- Whether the next piece captures the rest. -/
def startsWithRest (ps : List Piece) : Bool := ps matches rest _ :: _

/-- Whether each capture of the rest is at the end, and is the first piece or follows a slash. -/
def restsPlaced : List Piece → Bool
  | [] => true
  | rest _ :: ps => ps.isEmpty
  | p :: ps => (p == byte slash || !startsWithRest ps) && restsPlaced ps

end Piece

namespace Clash

open Piece

/-- Checks the captures of the rest in what a new pattern has of its own. -/
def checkRests (ps : List Piece) : Except PatternError Unit :=
  if restsPlaced ps then .ok () else .error .misplacedRest

/-- A pattern as it is written. -/
def whole (p : List Piece) : List UInt8 := p.flatMap written

/-- Reports a clash with the patterns of a bundle. -/
def report (b : Bundle (List Piece)) (text : List Piece → List UInt8) : PatternError :=
  let longest := (b.map fun e => e.1.length).foldl max 0
  .conflict ((Text.ofBytes? (text ((b.foremost (longest + 1)).getD []))).getD "")

/-- Checks a new pattern that has a capture of a segment where `node` is; `go` follows it among
the patterns that go on after such a capture. -/
def followSegment (go : Bundle (List Piece) → Except PatternError Unit)
    (node : Bundle (List Piece)) (piece : Piece) (more : List Piece) : Except PatternError Unit :=
  let under := node.segments
  if under.isEmpty then
    if node.rests.isEmpty then checkRests (piece :: more) else .error (report node.rests whole)
  else if more.isEmpty then
    if under.ended?.isNone then .ok () else .error (report under whole)
  else if under.deeper.isEmpty then checkRests more
  else go under.deeper

/-- Follows a new pattern; `before` is what was passed of it.  Fuel of the length of the pattern
and one more is enough. -/
def follow : Nat → Bundle (List Piece) → (before ps : List Piece) → Except PatternError Unit
  | 0, _, _, _ => .ok ()
  | fuel + 1, b, before, ps =>
      let label := b.label
      let n := (Bundle.common label (Bundle.lead ps)).length
      let node := b.after n
      let passed := before ++ ps.take n
      if b.isEmpty || n < label.length then checkRests (ps.drop n)
      else
        match ps.drop n with
        | [] =>
            if node.ended?.isNone then .ok ()
            else if label.isSuffixOf (numbered 0 before) then
              .error (report b fun p => whole (p.take before.length ++ p.drop passed.length))
            else .error (report b whole)
        | .byte c :: more =>
            let next := node.branch c
            if next.isEmpty then checkRests (.byte c :: more)
            else follow fuel next passed (.byte c :: more)
        | .segment name :: more =>
            followSegment (fun next => follow fuel next (passed ++ [.segment name]) more) node
              (.segment name) more
        | .rest name :: more =>
            if !node.segments.isEmpty then .error (report node.segments whole)
            else if !node.rests.isEmpty then .error (report node.rests whole)
            else checkRests (.rest name :: more)

/-- Checks that a pattern can stand beside others. -/
def check (others : List (List Piece)) (pattern : List Piece) : Except PatternError Unit :=
  follow (pattern.length + 1) (others.map fun p => (p, p)) [] pattern

theorem restsPlaced_plain (bs : List UInt8) : restsPlaced (plain bs) = true := by
  induction bs with
  | nil => rfl
  | cons b bs ih =>
      cases bs with
      | nil => simp [plain, restsPlaced, startsWithRest]
      | cons c bs => simpa [plain, restsPlaced, startsWithRest] using ih

/-- A pattern without captures can be the first one. -/
theorem check_nil_plain (bs : List UInt8) : check [] (plain bs) = .ok () := by
  simp [check, follow, Bundle.label, Bundle.common, checkRests, restsPlaced_plain]

end Clash

end TrafficMeter.Routing

/-!
# Quantiles of samples

A summary does not keep its samples apart: it sorts them into buckets whose bounds grow by a
constant factor, so that a quantile is known up to a small relative error.  Samples close to
zero share one bucket, negative ones are sorted by their opposites, and infinite ones are not
sorted at all.
-/

namespace TrafficMeter.Metric.Sketch

/-- The natural logarithm of the factor between neighbouring buckets. -/
def logGrowth : Float := 0.00020000000066666668

/-- The factor between neighbouring buckets. -/
def growth : Float := 1.0002000200020003

/-- Samples up to this distance from zero count as zero. -/
def zeroBound : Float := 1e-9

/-- A bucket. -/
inductive Bucket where
  | negative (index : Int)
  | zero
  | positive (index : Int)
deriving DecidableEq, Repr

/-- The least integer that is not below a number of moderate size. -/
def ceiling (x : Float) : Int :=
  let c := x.ceil
  if c < 0 then -((-c).toUInt64.toNat : Int) else c.toUInt64.toNat

/-- The bucket index of a positive sample. -/
def index (v : Float) : Int := ceiling (v.log / logGrowth)

/-- The number that stands for the samples of a bucket with this index. -/
def representative (i : Int) : Float := (Float.ofInt i * logGrowth).exp * (2 / (1 + growth))

/-- The bucket of a sample; one that is no number goes with the zeros. -/
def bucket (v : Float) : Bucket :=
  if v > zeroBound then .positive (index v)
  else if v < -zeroBound then .negative (index (-v))
  else .zero

/-- The number that stands for the samples of a bucket. -/
def Bucket.value : Bucket → Float
  | .negative i => -representative i
  | .zero => 0
  | .positive i => representative i

/-- The order of buckets from low to high. -/
def Bucket.le : Bucket → Bucket → Bool
  | .negative i, .negative j => decide (j ≤ i)
  | .negative _, _ => true
  | .zero, .negative _ => false
  | .zero, _ => true
  | .positive i, .positive j => decide (i ≤ j)
  | .positive _, _ => false

/-- A quantile within its bounds; what is no number counts as the lowest. -/
def clamp (q : Float) : Float := if q > 0 then if q < 1 then q else 1 else 0

/-- The least of the samples. -/
def least (samples : List Float) : Float :=
  samples.foldl (fun m v => if v < m then v else m) (1 / 0)

/-- The greatest of the samples. -/
def greatest (samples : List Float) : Float :=
  samples.foldl (fun m v => if m < v then v else m) (-1 / 0)

/-- The position of a quantile among so many samples. -/
def rank (q : Float) (count : Nat) : Nat := (q * (Float.ofNat count - 1)).toUInt64.toNat

/-- The estimates of quantiles: zero without samples, the extreme samples at the ends, and else
the number that stands for the bucket at the quantile's rank. -/
def estimates (quantiles samples : List Float) : List Float :=
  let finite := samples.filter fun v => !v.isInf
  let sorted := (finite.map bucket).mergeSort Bucket.le
  quantiles.map fun q =>
    if finite.isEmpty then 0
    else if q == 0 then least finite
    else if q == 1 then greatest finite
    else ((sorted[rank q finite.length]?).map Bucket.value).getD 0

end TrafficMeter.Metric.Sketch

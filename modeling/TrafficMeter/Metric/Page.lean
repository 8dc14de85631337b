import TrafficMeter.Decimal.Layout
import TrafficMeter.Metric.Label
import TrafficMeter.Metric.Registry

/-!
# The exposition page

The page shows a registry family by family: a help line if there is a help text, a line with the
family's kind, and a line for each sample.  A summary shows its quantiles, the sum and the count
of its samples.

`Page.text` is the page itself.  `Page.listing` is a digest in a fixed order, for comparing pages
that were filled in different orders: it can leave the quantiles out and mask what a clock gave.
-/

namespace TrafficMeter.Metric

/-- The kinds of families. -/
inductive Kind where
  | counter
  | gauge
  | summary
deriving DecidableEq, Repr

/-- The word for a kind. -/
def Kind.word : Kind → String
  | counter => "counter"
  | gauge => "gauge"
  | summary => "summary"

/-- What a sample line of a series shows. -/
inductive Role where
  | value
  | quantile
  | sum
  | count
deriving DecidableEq, Repr

/-- A sample line. -/
structure Sample where
  role : Role
  name : String
  /-- The labels as they are written. -/
  labels : List String
  value : String
deriving DecidableEq, Repr

/-- A family with its series, each of one or more sample lines. -/
structure Family where
  kind : Kind
  name : String
  help : Option String
  series : List (List Sample)
deriving DecidableEq, Repr

/-- The families of a page. -/
abbrev Page := List Family

/-- The line of a sample. -/
def Sample.line (s : Sample) : String :=
  let labels := if s.labels.isEmpty then "" else "\x7b" ++ ",".intercalate s.labels ++ "\x7d"
  s.name ++ labels ++ " " ++ s.value

namespace Family

/-- The help line of a family that has a help text. -/
def helpLines (f : Family) : List String :=
  match f.help with
  | some help => ["# HELP " ++ f.name ++ " " ++ Label.escape .help help]
  | none => []

/-- The line with the kind. -/
def typeLine (f : Family) : String := "# TYPE " ++ f.name ++ " " ++ f.kind.word

/-- All lines of a family. -/
def lines (f : Family) : List String :=
  f.helpLines ++ f.typeLine :: f.series.flatten.map Sample.line

end Family

namespace Page

/-- Sets or joins the value of a series, told apart by its written labels. -/
def join {α : Type} (both : α → α → α) (labels : List String) (v : α) :
    List (List String × α) → List (List String × α)
  | [] => [(labels, v)]
  | (l, u) :: rest =>
      if l = labels then (l, both u v) :: rest else (l, u) :: join both labels v rest

/-- The series of a table under the name and labels that the page shows, grouped by name. -/
def grouped {α : Type} (both : α → α → α) (t : Table α) : List (String × List (List String × α)) :=
  let shown := t.map fun (key, v) => (Name.sanitize key.name, Label.writeAll key.labels, v)
  (shown.map (·.1)).eraseDups.map fun name =>
    (name, (shown.filter (·.1 == name)).foldl (fun acc (_, labels, v) => join both labels v acc) [])

/-- The sample lines of a summary. -/
def summaryLines (quantiles : List Float) (name : String) (labels : List String)
    (samples : List Float) : List Sample :=
  (quantiles.zip (Sketch.estimates quantiles samples)).map (fun (q, v) =>
    { role := .quantile
      name
      labels := labels ++ ["quantile=\"" ++ Decimal.plainFloat q ++ "\""]
      value := Decimal.plainFloat v }) ++
  [{ role := .sum, name := name ++ "_sum", labels
     value := Decimal.plainFloat (samples.foldl (· + ·) 0) },
   { role := .count, name := name ++ "_count", labels, value := Decimal.natural samples.length }]

/-- The families of a table. -/
def families {α : Type} (r : Registry) (kind : Kind) (both : α → α → α)
    (lines : String → List String → α → List Sample) (t : Table α) : List Family :=
  (grouped both t).map fun (name, series) =>
    { kind, name, help := r.helps.lookup name
      series := series.map fun (labels, v) => lines name labels v }

/-- A sample line with a single value. -/
def valueLine (text : String) (name : String) (labels : List String) : List Sample :=
  [{ role := .value, name, labels, value := text }]

/-- The page of a registry.  Series that the page cannot tell apart show the later value, and
summaries all samples.  Whoever shows the page tallies the registry. -/
def ofRegistry (r : Registry) : Page :=
  families r .counter (fun _ v => v)
      (fun name labels v => valueLine (Decimal.natural v.toNat) name labels) r.counters ++
  families r .gauge (fun _ v => v)
      (fun name labels v => valueLine (Decimal.plainFloat v) name labels) r.gauges ++
  families r .summary (· ++ ·) (summaryLines r.quantiles)
      (r.summaries.map fun (key, samples) => (key, samples.toList))

/-- The page as text: an empty line ends each family. -/
def text (p : Page) : String :=
  String.join (p.map fun f => String.join (f.lines.map (· ++ "\n")) ++ "\n")

/-- Texts in order. -/
def textLe (a b : String) : Bool := !decide (b < a)

/-- Lists of texts in order. -/
def linesLe (a b : List String) : Bool := !List.lex b a fun x y => decide (x < y)

/-- Replaces the values of a family that come from a clock: all but the counts. -/
def maskClock (mask : String) (s : Sample) : Sample :=
  match s.role with
  | .quantile | .sum => { s with value := mask }
  | .value | .count => s

/-- The lines of a page in a fixed order. -/
def listing (showQuantiles : Bool) (clocked : List String) (mask : String) (p : Page) :
    List String :=
  let shown := p.map fun f =>
    let masked := f.kind == .summary && clocked.contains f.name
    let series := f.series.map fun samples =>
      let samples := samples.filter fun s => showQuantiles || s.role != .quantile
      (if masked then samples.map (maskClock mask) else samples).map Sample.line
    (f.typeLine, f.helpLines ++ f.typeLine :: (series.mergeSort linesLe).flatten)
  ((shown.mergeSort fun a b => textLe a.1 b.1).map (·.2)).flatten

end Page

end TrafficMeter.Metric

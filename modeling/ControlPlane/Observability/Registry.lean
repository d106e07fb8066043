import ControlPlane.Library.Exposition
import ControlPlane.Library.Histogram
import Mathlib.Algebra.Order.Field.Rat
import Mathlib.Data.List.AList

/-!
# The metrics registry

Counters and gauges by name and labels, request latencies by path, and the
text in which they are exposed. A floating point number is the rational number
it stands for; the product that turns a duration into whole milliseconds is a
parameter, as is Unicode's opinion on which characters are printable.
-/

namespace ControlPlane.Observability

open Exposition

/-! ## Labels and keys -/

/-- The labels of a call: a dictionary. -/
abbrev Labels : Type := AList fun _ : LabelName => String

/-- Labels in the order of their names. -/
def sortLabels (labels : List (LabelName × String)) : List (LabelName × String) :=
  labels.mergeSort fun first second => decide (first.1.val ≤ second.1.val)

/-- What `_key` makes of labels: their sorted items. -/
structure Key where
  items : List (LabelName × String)
  sorted : items.Pairwise fun first second => first.1.val ≤ second.1.val
  distinct : (items.map Prod.fst).Nodup
  deriving DecidableEq

theorem sortLabels_pairwise (labels : List (LabelName × String)) :
    (sortLabels labels).Pairwise fun first second => first.1.val ≤ second.1.val := by
  have transitive : ∀ first second third : LabelName × String,
      decide (first.1.val ≤ second.1.val) = true → decide (second.1.val ≤ third.1.val) = true →
        decide (first.1.val ≤ third.1.val) = true := fun _ _ _ less more =>
    decide_eq_true (String.le_trans (of_decide_eq_true less) (of_decide_eq_true more))
  have total : ∀ first second : LabelName × String,
      (decide (first.1.val ≤ second.1.val) || decide (second.1.val ≤ first.1.val)) = true := by
    intro first second
    rw [Bool.or_eq_true, decide_eq_true_eq, decide_eq_true_eq]
    exact String.le_total _ _
  have sorted := List.pairwise_mergeSort transitive total labels
  exact sorted.imp of_decide_eq_true

/-- `_key(labels)`; the names differ, so that the values are never compared. -/
def key (labels : Labels) : Key where
  items := sortLabels (labels.entries.map fun entry => (entry.1, entry.2))
  sorted := sortLabels_pairwise _
  distinct := by
    rw [sortLabels, ((List.mergeSort_perm _ _).map Prod.fst).nodup_iff, List.map_map]
    exact labels.keys_nodup

/-! ## The registry -/

inductive Kind
  | counter
  | gauge
  deriving DecidableEq

def Kind.text : Kind → LabelName
  | .counter => ⟨"counter", by decide +kernel⟩
  | .gauge => ⟨"gauge", by decide +kernel⟩

structure Registry where
  /-- `_counters`. -/
  counters : AList fun _ : MetricName × Key => Int
  /-- `_kinds`. -/
  kinds : AList fun _ : MetricName => Kind
  /-- `_latency`: the hits of each bucket, the total milliseconds and the request count. -/
  latency : AList fun _ : String => List Nat

/-- The registry of a process that just started. -/
def Registry.empty : Registry := ⟨∅, ∅, ∅⟩

def inc (name : MetricName) (labels : Labels) (value : Int) (registry : Registry) : Registry :=
  let series := (name, key labels)
  { registry with
    counters := registry.counters.insert series
      (((registry.counters.lookup series).getD 0) + value)
    kinds := registry.kinds.insert name .counter }

def gauge (name : MetricName) (value : Int) (labels : Labels) (registry : Registry) : Registry :=
  { registry with
    counters := registry.counters.insert (name, key labels) value
    kinds := registry.kinds.insert name .gauge }

/-- A bucket: the bound as it is written, and the number it is. -/
structure Bucket where
  text : String
  limit : ℚ

/-- `_LATENCY_BUCKETS`; the first two bounds are no binary fractions and are rounded to 53 bits. -/
def latencyBuckets : List Bucket :=
  [⟨"0.05", 3602879701896397 / 2 ^ 56⟩, ⟨"0.1", 3602879701896397 / 2 ^ 55⟩, ⟨"0.25", 1 / 4⟩,
    ⟨"0.5", 1 / 2⟩, ⟨"1", 1⟩, ⟨"2.5", 5 / 2⟩, ⟨"5", 5⟩, ⟨"10", 10⟩]

/-- The bounds of the buckets. -/
abbrev limits : List ℚ := latencyBuckets.map Bucket.limit

/-- A call of `observe_latency`. -/
structure Request where
  method : String
  path : String
  seconds : ℚ
  nonnegative : 0 ≤ seconds

def requestsTotal : MetricName := ⟨"http_requests_total", by decide +kernel⟩
def methodLabel : LabelName := ⟨"method", by decide +kernel⟩
def pathLabel : LabelName := ⟨"path", by decide +kernel⟩

/-- `[0] * len(_LATENCY_BUCKETS) + [0, 0]`. -/
def noBuckets : List Nat := List.replicate latencyBuckets.length 0 ++ [0, 0]

/-- The buckets of a path after one more request; `milliseconds` is `int(seconds * 1000)`. -/
def observed (milliseconds : ℚ → Nat) (seconds : ℚ) (buckets : List Nat) : List Nat :=
  let index := (limits.findIdx? fun limit => seconds ≤ limit).getD (latencyBuckets.length - 1)
  let hit := buckets.modify index (· + 1)
  let timed := hit.modify (hit.length - 2) (· + milliseconds seconds)
  timed.modify (timed.length - 1) (· + 1)

def observeLatency (milliseconds : ℚ → Nat) (request : Request) (registry : Registry) : Registry :=
  let buckets := (registry.latency.lookup request.path).getD noBuckets
  inc requestsTotal [⟨methodLabel, request.method⟩, ⟨pathLabel, request.path⟩].toAList 1
    { registry with
      latency := registry.latency.insert request.path
        (observed milliseconds request.seconds buckets) }

/-! ## The order of the series -/

/-- A number in hexadecimal digits, padded with zeros. -/
def hex (width number : Nat) : List Char :=
  let digits := Nat.toDigits 16 number
  List.replicate (width - digits.length) '0' ++ digits

/-- A character of a string literal. -/
def reprChar (isPrintable : Char → Bool) (quote char : Char) : List Char :=
  if char = quote ∨ char = '\\' then ['\\', char]
  else if char = '\t' then ['\\', 't']
  else if char = '\n' then ['\\', 'n']
  else if char = '\r' then ['\\', 'r']
  else if 0x20 ≤ char.toNat ∧ char.toNat < 0x7f then [char]
  else if 0x7f < char.toNat ∧ isPrintable char = true then [char]
  else if char.toNat ≤ 0xff then '\\' :: 'x' :: hex 2 char.toNat
  else if char.toNat ≤ 0xffff then '\\' :: 'u' :: hex 4 char.toNat
  else '\\' :: 'U' :: hex 8 char.toNat

/-- `repr(text)`. -/
def reprText (isPrintable : Char → Bool) (text : String) : List Char :=
  let chars := text.toList
  let quote := if '\'' ∈ chars ∧ '"' ∉ chars then '"' else '\''
  quote :: (chars.flatMap (reprChar isPrintable quote) ++ [quote])

/-- `str(labels)` of a tuple of pairs. -/
def strKey (isPrintable : Char → Bool) (labels : Key) : String :=
  let pairs := labels.items.map fun label =>
    '(' :: (reprText isPrintable label.1.val ++ [',', ' '] ++ reprText isPrintable label.2 ++ [')'])
  String.ofList
    ('(' :: ([',', ' '].intercalate pairs ++ if pairs.length = 1 then [',', ')'] else [')']))

/-- A series: its name, labels and number. -/
abbrev Series : Type := (MetricName × Key) × Int

/-- `sorted(_counters.items(), key=...)`. -/
def sortedSeries (isPrintable : Char → Bool) (registry : Registry) : List Series :=
  (registry.counters.entries.map fun entry => (entry.1, entry.2)).mergeSort fun first second =>
    decide (first.1.1.val < second.1.1.val ∨ first.1.1.val = second.1.1.val ∧
      strKey isPrintable first.1.2 ≤ strKey isPrintable second.1.2)

/-- `sorted(_latency.items())`; the paths differ, so that the buckets are never compared. -/
def sortedLatency (registry : Registry) : List (String × List Nat) :=
  (registry.latency.entries.map fun entry => (entry.1, entry.2)).mergeSort fun first second =>
    decide (first.1 ≤ second.1)

/-! ## The exposed text -/

/-- A line of the text: a plain one, or the seconds of a histogram. -/
inductive ExposedLine
  | line (line : Line)
  | seconds (name : MetricName) (labels : List (LabelName × String)) (milliseconds : Nat)

/-- `f"{value / 1000:.3f}"`. -/
def thousandths (value : Nat) : List Char :=
  let digits := natural (value % 1000)
  natural (value / 1000) ++ '.' :: (List.replicate (3 - digits.length) '0' ++ digits)

def ExposedLine.text : ExposedLine → List Char
  | .line plain => plain.text
  | .seconds name labels milliseconds => Line.head name labels ++ ' ' :: thousandths milliseconds

/-- The lines of some series; a name is documented where it occurs first. -/
def seriesLines (kinds : AList fun _ : MetricName => Kind) :
    List MetricName → List Series → List ExposedLine
  | _, [] => []
  | documented, ((name, labels), value) :: series =>
      let sample := .line (.sample name (sortLabels labels.items) value)
      if name ∈ documented then sample :: seriesLines kinds documented series
      else
        .line (.type name ((kinds.lookup name).getD .counter).text) ::
          sample :: seriesLines kinds (name :: documented) series

def durationSeconds : MetricName := ⟨"http_request_duration_seconds", by decide +kernel⟩
def durationBucket : MetricName := ⟨"http_request_duration_seconds_bucket", by decide +kernel⟩
def durationCount : MetricName := ⟨"http_request_duration_seconds_count", by decide +kernel⟩
def durationSum : MetricName := ⟨"http_request_duration_seconds_sum", by decide +kernel⟩
def histogramKind : LabelName := ⟨"histogram", by decide +kernel⟩
def leLabel : LabelName := ⟨"le", by decide +kernel⟩

/-- A bucket of the histogram of a path. -/
def bucketLine (path bound : String) (value : Nat) : ExposedLine :=
  .line (.sample durationBucket [(pathLabel, path), (leLabel, bound)] value)

/-- The loop over the buckets, which makes the counts cumulative. -/
def bucketLines (path : String) : Nat → List (Bucket × Nat) → List ExposedLine
  | _, [] => []
  | cumulative, (bucket, hits) :: buckets =>
      bucketLine path bucket.text (cumulative + hits) ::
        bucketLines path (cumulative + hits) buckets

/-- The histogram of a path. -/
def histogramLines (path : String) (buckets : List Nat) : List ExposedLine :=
  let count := buckets.getD (buckets.length - 1) 0
  bucketLines path 0 (latencyBuckets.zip buckets) ++
    [bucketLine path "+Inf" count,
      .line (.sample durationCount [(pathLabel, path)] count),
      .seconds durationSum [(pathLabel, path)] (buckets.getD (buckets.length - 2) 0)]

def uptimeSeconds : MetricName := ⟨"process_uptime_seconds", by decide +kernel⟩

/-- The lines of `render`; `uptime` is `int(time.time() - _started)`. -/
def lines (isPrintable : Char → Bool) (uptime : Int) (registry : Registry) : List ExposedLine :=
  seriesLines registry.kinds [] (sortedSeries isPrintable registry) ++
    (if registry.latency.entries = [] then [] else [.line (.type durationSeconds histogramKind)]) ++
    (sortedLatency registry).flatMap (fun entry => histogramLines entry.1 entry.2) ++
    [.line (.type uptimeSeconds Kind.gauge.text), .line (.sample uptimeSeconds [] uptime)]

/-- `render()`: each line, followed by a line feed. -/
def render (isPrintable : Char → Bool) (uptime : Int) (registry : Registry) : String :=
  String.ofList ((lines isPrintable uptime registry).flatMap fun line => line.text ++ ['\n'])

end ControlPlane.Observability

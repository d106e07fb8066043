import ControlPlane.Observability.Exposure
import Mathlib.Data.List.Induction

/-!
# The latency histogram

What a scraper reads after any sequence of requests. Requests that take longer
than the last bound are counted in the last bucket, so that its number is the
number of all requests. Paths are put between quotes as they are: each line of
a bucket is read as at least one bucket, and as long a one as it was written
for only where its path is plain.
-/

namespace ControlPlane.Observability

open Exposition Histogram

/-- The registry after some requests. -/
def record (milliseconds : ℚ → Nat) (requests : List Request) : Registry :=
  requests.foldl (fun registry request => observeLatency milliseconds request registry) .empty

/-- The durations of the requests of a path. -/
def durations (path : String) (requests : List Request) : List ℚ :=
  (requests.filter (·.path = path)).map Request.seconds

/-- The paths that were asked for. -/
def paths (requests : List Request) : List String := (requests.map Request.path).dedup

/-! ## The histogram as it should be read -/

/-- A bucket of a path: how many requests took at most as long as the bound. -/
def bucketSample (path bound : String) (count : Nat) : Sample ℚ :=
  ⟨durationBucket.val, [(leLabel.val, bound), (pathLabel.val, path)], count⟩

/-- The number of requests of a path. -/
def countSample (path : String) (count : Nat) : Sample ℚ :=
  ⟨durationCount.val, [(pathLabel.val, path)], count⟩

/-- The buckets of some durations: those up to each bound, and all of them. -/
def bucketSamples (path : String) (durations : List ℚ) : List (Sample ℚ) :=
  (latencyBuckets.map fun bucket =>
    bucketSample path bucket.text (durations.countP (· ≤ bucket.limit))) ++
      [bucketSample path "+Inf" durations.length]

/-- The samples of a name. -/
def named (name : MetricName) (samples : List (Sample ℚ)) : List (Sample ℚ) :=
  samples.filter (·.name = name.val)

/-- The numbers of the buckets of a path, in the order of the lines. -/
def bucketValues (path : String) (samples : List (Sample ℚ)) : List ℚ :=
  ((named durationBucket samples).filter ((pathLabel.val, path) ∈ ·.labels)).map Sample.value

/-- The histogram that is read is the one of the requests, for every path and with nothing else. -/
structure HistogramCorrect (requests : List Request) (samples : List (Sample ℚ)) : Prop where
  /-- Each bucket of a path counts its requests up to the bound, the last one all of them. -/
  buckets : (named durationBucket samples).Perm
    ((paths requests).flatMap fun path => bucketSamples path (durations path requests))
  ascending : ∀ path, (bucketValues path samples).Pairwise (· ≤ ·)
  counts : (named durationCount samples).Perm
    ((paths requests).map fun path => countSample path (durations path requests).length)

/-! ## The buckets of a path -/

/-- The buckets of a path with these durations. -/
def tally (milliseconds : ℚ → Nat) (durations : List ℚ) : List Nat :=
  hits limits durations ++ [(durations.map milliseconds).sum, durations.length]

theorem tally_nil (milliseconds : ℚ → Nat) : tally milliseconds [] = noBuckets := by
  rw [tally, hits_nil]
  rfl

/-- A change of a list before its last two elements. -/
theorem modify_append {index : Nat} {front : List Nat} (inside : index < front.length)
    (back : List Nat) (change : Nat → Nat) :
    (front ++ back).modify index change = front.modify index change ++ back := by
  induction front generalizing index with
  | nil => exact absurd inside (Nat.not_lt_zero _)
  | cons first front inductionHypothesis =>
      cases index with
      | zero => rfl
      | succ index =>
          rw [List.cons_append, List.modify_succ_cons, List.modify_succ_cons,
            inductionHypothesis (Nat.lt_of_succ_lt_succ inside), List.cons_append]

theorem modify_append_cons (front : List Nat) (middle : Nat) (back : List Nat)
    (change : Nat → Nat) :
    (front ++ middle :: back).modify front.length change = front ++ change middle :: back := by
  induction front with
  | nil => rfl
  | cons first front inductionHypothesis =>
      rw [List.cons_append, List.length_cons, List.modify_succ_cons, inductionHypothesis,
        List.cons_append]

/-- One more request is one more duration. -/
theorem observed_tally (milliseconds : ℚ → Nat) (durations : List ℚ) (seconds : ℚ) :
    observed milliseconds seconds (tally milliseconds durations) =
      tally milliseconds (durations ++ [seconds]) := by
  have index : (limits.findIdx? fun limit => seconds ≤ limit).getD (latencyBuckets.length - 1) =
      slot limits seconds := rfl
  have inside : slot limits seconds < (hits limits durations).length := by
    rw [length_hits]
    exact slot_lt (by decide) seconds
  have hit := hits_append limits durations seconds
  unfold observed tally
  dsimp only
  rw [index, modify_append inside, ← hit]
  generalize hits limits (durations ++ [seconds]) = counted
  have total : (counted ++ [(durations.map milliseconds).sum, durations.length]).length - 2 =
      counted.length := by simp
  have counts : (counted ++ [(durations.map milliseconds).sum + milliseconds seconds,
      durations.length]).length - 1 =
        (counted ++ [(durations.map milliseconds).sum + milliseconds seconds]).length := by simp
  rw [total, modify_append_cons, counts]
  have split : counted ++ [(durations.map milliseconds).sum + milliseconds seconds,
      durations.length] =
        (counted ++ [(durations.map milliseconds).sum + milliseconds seconds]) ++
          durations.length :: [] := by simp
  rw [split, modify_append_cons]
  simp

theorem durations_append (path : String) (requests : List Request) (request : Request) :
    durations path (requests ++ [request]) =
      durations path requests ++ if request.path = path then [request.seconds] else [] := by
  rw [durations, List.filter_append, List.map_append]
  by_cases same : request.path = path
  · rw [if_pos same, List.filter_cons_of_pos (by simpa using same)]
    rfl
  · rw [if_neg same, List.filter_cons_of_neg (by simpa using same)]
    rfl

/-- After any requests a path that was asked for has the buckets of its durations. -/
theorem lookup_record (milliseconds : ℚ → Nat) (requests : List Request) (path : String) :
    (record milliseconds requests).latency.lookup path =
      if durations path requests = [] then none
      else some (tally milliseconds (durations path requests)) := by
  induction requests using List.reverseRecOn with
  | nil => rfl
  | append_singleton requests request inductionHypothesis =>
      have step : (record milliseconds (requests ++ [request])).latency =
          (record milliseconds requests).latency.insert request.path
            (observed milliseconds request.seconds
              (((record milliseconds requests).latency.lookup request.path).getD noBuckets)) := by
        rw [record, List.foldl_append]
        rfl
      rw [step]
      by_cases same : request.path = path
      · subst same
        have grown : durations request.path (requests ++ [request]) =
            durations request.path requests ++ [request.seconds] := by
          rw [durations_append, if_pos rfl]
        have some' : durations request.path (requests ++ [request]) ≠ [] := by
          rw [grown]
          exact List.append_ne_nil_of_right_ne_nil _ (List.cons_ne_nil _ _)
        rw [AList.lookup_insert, inductionHypothesis, if_neg some', grown, ← observed_tally]
        split
        next first => rw [Option.getD_none, first, tally_nil]
        next => rw [Option.getD_some]
      · have kept : durations path (requests ++ [request]) = durations path requests := by
          rw [durations_append, if_neg same, List.append_nil]
        rw [AList.lookup_insert_ne (Ne.symm same), kept]
        exact inductionHypothesis

/-! ## What the lines are written for -/

namespace ExposedLine

/-- The sample that a line is written for. -/
def written : ExposedLine → List (Sample ℚ)
  | .line plain => plain.written decimals
  | .seconds name labels milliseconds =>
      [⟨name.val, inOrder (labels.map Line.pair), milliseconds / 1000⟩]

/-- The label values of a line. -/
def values : ExposedLine → List String
  | .line plain => plain.values
  | .seconds _ labels _ => labels.map Prod.snd

end ExposedLine

/-- The digits behind the point, padded to three. -/
theorem thousandths_spec (value : Nat) :
    ∃ fraction, thousandths value = natural (value / 1000) ++ '.' :: fraction ∧
      fraction.length = 3 ∧ (∀ char ∈ fraction, isAsciiDigit char = true) ∧
        digitsValue fraction = value % 1000 := by
  have small : ∀ rest < 1000, (natural rest).length ≤ 3 := by decide +kernel
  have zeros : ∀ count, digitsValue (List.replicate count '0') = 0 := by
    intro count
    induction count with
    | zero => rfl
    | succ count inductionHypothesis =>
        rw [List.replicate_succ', digitsValue_append, inductionHypothesis]
        rfl
  refine ⟨_, rfl, ?_, ?_, ?_⟩
  · have short := small (value % 1000) (Nat.mod_lt _ (by decide))
    rw [List.length_append, List.length_replicate]
    omega
  · intro char member
    rcases List.mem_append.mp member with padding | digit
    · rw [(List.mem_replicate.mp padding).2]
      decide
    · exact natural_chars _ char digit
  · rw [digitsValue_append, zeros, Nat.zero_mul, Nat.zero_add, digitsValue_natural]

/-- The seconds of a histogram are read as the thousandths they are. -/
theorem numeral_thousandths (value : Nat) :
    Numeral decimals (thousandths value) ((value : ℚ) / 1000) := by
  obtain ⟨fraction, text, long, digits, number⟩ := thousandths_spec value
  have chars : ∀ char ∈ thousandths value, char = '.' ∨ isAsciiDigit char = true := by
    intro char member
    rw [text] at member
    rcases List.mem_append.mp member with digit | member
    · exact .inr (natural_chars _ char digit)
    · rcases List.mem_cons.mp member with point | digit
      · exact .inl point
      · exact .inr (digits char digit)
  have other : ∀ {char}, char ≠ '.' → isAsciiDigit char = false → char ∉ thousandths value :=
    fun point digit member => (chars _ member).elim point fun found =>
      absurd (digit.symm.trans found) Bool.false_ne_true
  refine ⟨?_, fun char member => ?_, fun char member same => ?_, other (by decide) (by decide), ?_⟩
  · rw [text]
    exact List.append_ne_nil_of_right_ne_nil _ (List.cons_ne_nil _ _)
  · rw [Bool.not_eq_true', isBlank, Bool.or_eq_false_iff, decide_eq_false_iff_not,
      decide_eq_false_iff_not]
    exact ⟨fun same => other (by decide) (by decide) (same ▸ member),
      fun same => other (by decide) (by decide) (same ▸ member)⟩
  · exact other (by decide) (by decide) (same ▸ member)
  · have read : readDecimal (thousandths value) =
        some (digitsValue (natural (value / 1000) ++ fraction) / 10 ^ fraction.length : ℚ) := by
      rw [text]
      exact readDecimal_point (natural_ne_nil _) (natural_chars _) digits
    have whole : digitsValue (natural (value / 1000) ++ fraction) = value := by
      rw [digitsValue_append, digitsValue_natural, long, number]
      omega
    rw [whole, long] at read
    norm_num at read
    exact read

/-- A line is read back where its values are plain. -/
theorem ExposedLine.readLine_text {line : ExposedLine}
    (plain : ∀ value ∈ line.values, Plain value) :
    readLine decimals line.text = some line.written := by
  cases line with
  | line line => exact Line.readLine_text decimals plain
  | seconds name labels milliseconds =>
      exact Line.readLine_head (numeral_thousandths milliseconds) fun label member =>
        plain label.2 (List.mem_map_of_mem member)

theorem ExposedLine.one_line {line : ExposedLine} (plain : ∀ value ∈ line.values, Plain value) :
    '\n' ∉ line.text := by
  cases line with
  | line line => exact Line.one_line plain
  | seconds name labels milliseconds =>
      have begins := @Line.not_mem_head name _ fun label member =>
        plain label.2 (List.mem_map_of_mem (f := Prod.snd) member)
      have text : (ExposedLine.seconds name labels milliseconds).text =
          Line.head name labels ++ ' ' :: thousandths milliseconds := rfl
      rw [text]
      simp [begins, (numeral_thousandths milliseconds).line]

/-- The text of some lines. -/
def textOf (lines : List ExposedLine) : List Char := lines.flatMap fun line => line.text ++ ['\n']

/-- Lines with plain values are read as what they were written for. -/
theorem readLines_textOf {lines : List ExposedLine}
    (plain : ∀ line ∈ lines, ∀ value ∈ line.values, Plain value) :
    readLines decimals ((textOf lines).splitOn '\n') =
      some (lines.flatMap ExposedLine.written) := by
  induction lines with
  | nil => exact readLines_nil
  | cons line lines inductionHypothesis =>
      have first := plain line List.mem_cons_self
      have later := inductionHypothesis fun other member =>
        plain other (List.mem_cons_of_mem _ member)
      rw [textOf, List.flatMap_cons, splitOn_lines, readLines_append,
        List.splitOn_eq_singleton (ExposedLine.one_line first), ← textOf, later, readLines,
        ExposedLine.readLine_text first]
      simp [readLines]

/-! ## Each bucket line is read as a bucket -/

/-- The lines of buckets have labels. -/
def Labelled : ExposedLine → Prop
  | .line (.sample name labels _) => name = durationBucket → labels ≠ []
  | .line (.type _ _) => True
  | .seconds name _ _ => name ≠ durationBucket

theorem named_append (name : MetricName) (first second : List (Sample ℚ)) :
    named name (first ++ second) = named name first ++ named name second := List.filter_append ..

theorem lengths_named_le (name : MetricName) (samples : List (Sample ℚ)) :
    lengths (named name samples) ≤ lengths samples := by
  induction samples with
  | nil => exact Nat.le_refl _
  | cons sample samples inductionHypothesis =>
      have split : lengths (sample :: samples) = sample.length + lengths samples := rfl
      by_cases same : sample.name = name.val
      · have found : named name (sample :: samples) = sample :: named name samples :=
          List.filter_cons_of_pos (decide_eq_true same)
        have split' : lengths (sample :: named name samples) =
            sample.length + lengths (named name samples) := rfl
        rw [found, split, split']
        omega
      · have found : named name (sample :: samples) = named name samples :=
          List.filter_cons_of_neg fun found => same (of_decide_eq_true found)
        rw [found, split]
        omega

/-- What is read from a text has no fewer buckets than it was written for. Where it has as many,
they are at most as long, and as long only where they are plain. -/
structure Accounts (written samples : List (Sample ℚ)) : Prop where
  many : (named durationBucket written).length ≤ (named durationBucket samples).length
  short : (named durationBucket samples).length = (named durationBucket written).length →
    lengths (named durationBucket samples) ≤ lengths (named durationBucket written)
  plain : (named durationBucket samples).length = (named durationBucket written).length →
    lengths (named durationBucket samples) = lengths (named durationBucket written) →
      ∀ sample ∈ named durationBucket samples, sample.Plain

theorem Accounts.append {written samples laterWritten laterSamples : List (Sample ℚ)}
    (first : Accounts written samples) (second : Accounts laterWritten laterSamples) :
    Accounts (written ++ laterWritten) (samples ++ laterSamples) := by
  have many := first.many
  have manyLater := second.many
  refine ⟨?_, ?_, ?_⟩
  · rw [named_append, named_append, List.length_append, List.length_append]
    omega
  · rw [named_append, named_append, List.length_append, List.length_append, lengths_append,
      lengths_append]
    intro same
    have short := first.short (by omega)
    have shortLater := second.short (by omega)
    omega
  · rw [named_append, named_append, List.length_append, List.length_append, lengths_append,
      lengths_append]
    intro same long sample member
    have short := first.short (by omega)
    have shortLater := second.short (by omega)
    rcases List.mem_append.mp member with member | member
    · exact first.plain (by omega) (by omega) sample member
    · exact second.plain (by omega) (by omega) sample member

/-- Where no bucket is written, any may be read. -/
theorem Accounts.of_named_eq_nil {written : List (Sample ℚ)}
    (none' : named durationBucket written = []) (samples : List (Sample ℚ)) :
    Accounts written samples := by
  refine ⟨?_, fun same => ?_, fun same _ sample member => ?_⟩
  · rw [none']
    exact Nat.zero_le _
  · rw [none'] at same ⊢
    rw [List.length_eq_zero_iff.mp same]
  · rw [none'] at same
    rw [List.length_eq_zero_iff.mp same] at member
    exact absurd member List.not_mem_nil

theorem accounts_text {line : ExposedLine} (labelled : Labelled line) {samples : List (Sample ℚ)}
    (read : readLines decimals (line.text.splitOn '\n') = some samples) :
    Accounts line.written samples := by
  cases line with
  | seconds name labels milliseconds =>
      refine .of_named_eq_nil (List.filter_eq_nil_iff.mpr fun sample member => ?_) samples
      obtain rfl := List.mem_singleton.mp member
      exact fun same => labelled (Subtype.ext (of_decide_eq_true same))
  | line line =>
      cases line with
      | type name kind => exact .of_named_eq_nil rfl samples
      | sample name labels value =>
          by_cases bucket : name = durationBucket
          · have some' : labels ≠ [] := labelled bucket
            have whole : (Line.sample name labels value).text = name.val.toList ++
                '{' :: ([','].intercalate (labels.map Line.label) ++ '}' :: ' ' :: decimal value) := by
              rw [Line.text_sample, Line.head_of_ne_nil name some', List.append_assoc,
                List.cons_append, List.append_assoc, List.singleton_append]
            have read : readLines decimals
                ((Line.sample name labels value).text.splitOn '\n') = some samples := read
            obtain ⟨short, same⟩ := Line.readLines_text read
            obtain ⟨sample, member, called⟩ := readLines_named (by
              rw [← whole]
              exact read)
            have written :
                named durationBucket (ExposedLine.line (.sample name labels value)).written =
                (ExposedLine.line (.sample name labels value)).written :=
              List.filter_eq_self.mpr fun sample member => by
                obtain rfl := List.mem_singleton.mp member
                exact decide_eq_true (congrArg Subtype.val bucket)
            have found : sample ∈ named durationBucket samples :=
              List.mem_filter.mpr ⟨member, decide_eq_true (by rw [called, bucket])⟩
            have less := lengths_named_le durationBucket samples
            refine ⟨?_, fun _ => ?_, fun _ long other inside => ?_⟩
            · rw [written]
              exact List.length_pos_of_mem found
            · rw [written]
              exact Nat.le_trans less short
            · rw [written] at long
              exact same (Nat.le_antisymm short (long ▸ less)) other (List.mem_filter.mp inside).1
          · refine .of_named_eq_nil (List.filter_eq_nil_iff.mpr fun sample member => ?_) samples
            obtain rfl := List.mem_singleton.mp member
            exact fun same => bucket (Subtype.ext (of_decide_eq_true same))

theorem accounts_textOf {lines : List ExposedLine} (labelled : ∀ line ∈ lines, Labelled line)
    {samples : List (Sample ℚ)}
    (read : readLines decimals ((textOf lines).splitOn '\n') = some samples) :
    Accounts (lines.flatMap ExposedLine.written) samples := by
  induction lines generalizing samples with
  | nil => exact .of_named_eq_nil rfl samples
  | cons line lines inductionHypothesis =>
      rw [textOf, List.flatMap_cons, splitOn_lines, readLines_append] at read
      obtain ⟨first, readFirst, read⟩ := Option.bind_eq_some_iff.mp read
      obtain ⟨more, readMore, rfl⟩ := Option.map_eq_some_iff.mp read
      rw [List.flatMap_cons]
      exact (accounts_text (labelled line List.mem_cons_self) readFirst).append
        (inductionHypothesis (fun other member => labelled other (List.mem_cons_of_mem _ member))
          readMore)

/-! ## The lines of a path -/

/-- The bounds of the buckets, as they are written. -/
def bucketBounds : List String := latencyBuckets.map Bucket.text ++ ["+Inf"]

theorem mem_bucketLines {line : ExposedLine} {path : String} {cumulative : Nat}
    {buckets : List (Bucket × Nat)} (member : line ∈ bucketLines path cumulative buckets) :
    ∃ bucket ∈ buckets, ∃ count, line = bucketLine path bucket.1.text count := by
  induction buckets generalizing cumulative with
  | nil => exact absurd member List.not_mem_nil
  | cons bucket buckets inductionHypothesis =>
      rcases List.mem_cons.mp member with rfl | member
      · exact ⟨bucket, List.mem_cons_self, _, rfl⟩
      · obtain ⟨other, inside, written⟩ := inductionHypothesis member
        exact ⟨other, List.mem_cons_of_mem _ inside, written⟩

/-- A line of a path is a bucket with one of the bounds, the count or the seconds. -/
theorem mem_histogramLines {line : ExposedLine} {path : String} {buckets : List Nat}
    (member : line ∈ histogramLines path buckets) :
    (∃ bound ∈ bucketBounds, ∃ count, line = bucketLine path bound count) ∨
      (∃ count, line = .line (.sample durationCount [(pathLabel, path)] count)) ∨
        ∃ total, line = .seconds durationSum [(pathLabel, path)] total := by
  rcases List.mem_append.mp member with member | member
  · obtain ⟨⟨bucket, hits⟩, inside, count, rfl⟩ := mem_bucketLines member
    exact .inl ⟨bucket.text, List.mem_append_left _
      (List.mem_map_of_mem (List.of_mem_zip inside).1), count, rfl⟩
  · rcases List.mem_cons.mp member with rfl | member
    · exact .inl ⟨_, List.mem_append_right _ (List.mem_singleton_self _), _, rfl⟩
    · rcases List.mem_cons.mp member with rfl | member
      · exact .inr (.inl ⟨_, rfl⟩)
      · exact .inr (.inr ⟨_, List.mem_singleton.mp member⟩)

/-! ## The lines after some requests -/

/-- The labels under which a request is counted. -/
abbrev requestLabels (request : Request) : Labels :=
  [⟨methodLabel, request.method⟩, ⟨pathLabel, request.path⟩].toAList

/-- Requests are counted under one name, by their method and path. -/
theorem counters_record (milliseconds : ℚ → Nat) (requests : List Request) :
    ∀ series ∈ (record milliseconds requests).counters.keys,
      ∃ request ∈ requests, series = (requestsTotal, key (requestLabels request)) := by
  induction requests using List.reverseRecOn with
  | nil => exact fun series member => absurd member List.not_mem_nil
  | append_singleton requests request inductionHypothesis =>
      intro series member
      rw [record, List.foldl_append] at member
      rcases (AList.mem_insert _).mp (AList.mem_keys.mpr member) with rfl | member
      · exact ⟨request, List.mem_append_right _ (List.mem_singleton_self _), rfl⟩
      · obtain ⟨other, inside, counted⟩ := inductionHypothesis series (AList.mem_keys.mp member)
        exact ⟨other, List.mem_append_left _ inside, counted⟩

theorem items_requestLabels (request : Request) :
    ((key (requestLabels request)).items.map Prod.snd).Perm [request.method, request.path] := by
  have distinct : methodLabel ≠ pathLabel := by decide +kernel
  have entries : (requestLabels request).entries =
      [⟨methodLabel, request.method⟩, ⟨pathLabel, request.path⟩] := by
    simp [List.toAList, List.dedupKeys, List.kinsert, distinct]
  have items : (key (requestLabels request)).items =
      sortLabels ((requestLabels request).entries.map fun entry => (entry.1, entry.2)) := rfl
  rw [items, entries]
  exact (List.mergeSort_perm _ _).map Prod.snd

theorem nodup_paths (requests : List Request) : (paths requests).Nodup := List.nodup_dedup _

theorem mem_paths {path : String} {requests : List Request} :
    path ∈ paths requests ↔ durations path requests ≠ [] := by
  rw [paths, List.mem_dedup, durations, Ne, List.map_eq_nil_iff, List.filter_eq_nil_iff]
  simp [List.mem_map]

/-- The registry holds the buckets of each path that was asked for. -/
theorem sortedLatency_record (milliseconds : ℚ → Nat) (requests : List Request) :
    ∃ asked : List String, asked.Perm (paths requests) ∧
      sortedLatency (record milliseconds requests) =
        asked.map fun path => (path, tally milliseconds (durations path requests)) := by
  have found : ∀ path buckets, (path, buckets) ∈ sortedLatency (record milliseconds requests) ↔
      durations path requests ≠ [] ∧
        buckets = tally milliseconds (durations path requests) := by
    intro path buckets
    have inside : (path, buckets) ∈ sortedLatency (record milliseconds requests) ↔
        buckets ∈ (record milliseconds requests).latency.lookup path := by
      rw [sortedLatency, (List.mergeSort_perm _ _).mem_iff, AList.mem_lookup_iff, List.mem_map]
      constructor
      · rintro ⟨entry, member, same⟩
        obtain ⟨rfl, rfl⟩ := Prod.mk.inj same
        exact member
      · exact fun member => ⟨_, member, rfl⟩
    rw [inside, lookup_record]
    split
    next none' =>
      exact ⟨fun member => absurd member (Option.not_mem_none _), fun asked => absurd none' asked.1⟩
    next some' =>
      rw [Option.mem_some_iff]
      exact ⟨fun same => ⟨some', same.symm⟩, fun same => same.2.symm⟩
  have distinct : ((sortedLatency (record milliseconds requests)).map Prod.fst).Nodup := by
    rw [sortedLatency, ((List.mergeSort_perm _ _).map Prod.fst).nodup_iff, List.map_map]
    exact (record milliseconds requests).latency.keys_nodup
  refine ⟨(sortedLatency (record milliseconds requests)).map Prod.fst, ?_, ?_⟩
  · rw [List.perm_ext_iff_of_nodup distinct (nodup_paths requests)]
    intro path
    rw [mem_paths, List.mem_map]
    constructor
    · rintro ⟨⟨_, buckets⟩, member, rfl⟩
      exact ((found _ _).mp member).1
    · exact fun asked => ⟨_, (found path _).mpr ⟨asked, rfl⟩, rfl⟩
  · rw [List.map_map]
    refine (List.map_id _).symm.trans (List.map_congr_left ?_)
    rintro ⟨path, buckets⟩ member
    exact Prod.ext rfl ((found path buckets).mp member).2

/-- The lines: what the counters say, the histogram of each path, and the age of the process. -/
theorem lines_record (milliseconds : ℚ → Nat) (isPrintable : Char → Bool) (uptime : Int)
    (requests : List Request) :
    ∃ (plain : List Line) (asked : List String), asked.Perm (paths requests) ∧
      lines isPrintable uptime (record milliseconds requests) = plain.map .line ++
        asked.flatMap (fun path =>
          histogramLines path (tally milliseconds (durations path requests))) ++
        [.line (.type uptimeSeconds Kind.gauge.text), .line (.sample uptimeSeconds [] uptime)] ∧
      (∀ sample ∈ plain.flatMap (Line.written decimals), sample.name = requestsTotal.val) ∧
      ∀ value ∈ plain.flatMap Line.values,
        ∃ request ∈ requests, value = request.method ∨ value = request.path := by
  obtain ⟨asked, same, latency⟩ := sortedLatency_record milliseconds requests
  obtain ⟨plain, series, samples, values⟩ := seriesLines_written decimals
    (record milliseconds requests).kinds []
    (sortedSeries isPrintable (record milliseconds requests))
  have counted : ∀ entry ∈ sortedSeries isPrintable (record milliseconds requests),
      ∃ request ∈ requests, entry.1 = (requestsTotal, key (requestLabels request)) := by
    intro entry member
    obtain ⟨counter, inside, rfl⟩ := List.mem_map.mp ((List.mergeSort_perm _ _).mem_iff.mp member)
    exact counters_record milliseconds requests counter.1
      (List.mem_map_of_mem (f := Sigma.fst) inside)
  let header : List Line := if (record milliseconds requests).latency.entries = [] then []
    else [.type durationSeconds histogramKind]
  have headed : (if (record milliseconds requests).latency.entries = [] then []
      else [ExposedLine.line (.type durationSeconds histogramKind)]) =
        header.map ExposedLine.line := by
    dsimp only [header]
    split <;> rfl
  have unwritten : header.flatMap (Line.written decimals) = [] ∧
      header.flatMap Line.values = [] := by
    dsimp only [header]
    split <;> exact ⟨rfl, rfl⟩
  refine ⟨plain ++ header, asked, same, ?_, fun sample member => ?_, fun value member => ?_⟩
  · rw [lines, series, headed, latency, List.map_append, List.flatMap_map]
  · rw [List.flatMap_append, unwritten.1, List.append_nil, samples] at member
    obtain ⟨entry, inside, rfl⟩ := List.mem_map.mp member
    obtain ⟨request, -, called⟩ := counted entry inside
    rw [sampleOf, called]
  · rw [List.flatMap_append, unwritten.2, List.append_nil, values] at member
    obtain ⟨entry, inside, valued⟩ := List.mem_flatMap.mp member
    obtain ⟨request, asked, called⟩ := counted entry inside
    rw [called] at valued
    have one := (items_requestLabels request).mem_iff.mp valued
    simp only [List.mem_cons, List.not_mem_nil, or_false] at one
    exact ⟨request, asked, one⟩

/-! ## What the histogram of a path is written for -/

theorem inOrder_bucket (path bound : String) :
    inOrder [(pathLabel.val, path), (leLabel.val, bound)] =
      [(leLabel.val, bound), (pathLabel.val, path)] := by
  have later : ¬pathLabel.val ≤ leLabel.val := by decide +kernel
  simp [inOrder, List.mergeSort, List.MergeSort.Internal.splitInTwo, later]

theorem written_bucketLine (path bound : String) (count : Nat) :
    (bucketLine path bound count).written = [bucketSample path bound count] := by
  have labels : [(pathLabel, path), (leLabel, bound)].map Line.pair =
      [(pathLabel.val, path), (leLabel.val, bound)] := rfl
  rw [bucketLine, ExposedLine.written, Line.written, labels, inOrder_bucket, bucketSample]
  exact congrArg (fun value : ℚ => [Sample.mk _ _ value]) (Int.cast_natCast count)

/-- The cumulative numbers of the buckets. -/
theorem written_bucketLines (path : String) (cumulative : Nat) (buckets : List (Bucket × Nat)) :
    (bucketLines path cumulative buckets).flatMap ExposedLine.written =
      buckets.mapIdx fun index bucket => bucketSample path bucket.1.text
        (cumulative + ((buckets.map Prod.snd).take (index + 1)).sum) := by
  induction buckets generalizing cumulative with
  | nil => rfl
  | cons bucket buckets inductionHypothesis =>
      obtain ⟨bucket, count⟩ := bucket
      rw [bucketLines, List.flatMap_cons, written_bucketLine, inductionHypothesis,
        List.mapIdx_cons]
      simp [Nat.add_assoc]

theorem zip_tally (milliseconds : ℚ → Nat) (durations : List ℚ) :
    latencyBuckets.zip (tally milliseconds durations) =
      latencyBuckets.zip (hits limits durations) := by
  have same : latencyBuckets.length = (hits limits durations).length := by
    rw [length_hits]
    rfl
  have split : (latencyBuckets ++ []).zip (tally milliseconds durations) = _ :=
    List.zip_append same
  rw [List.append_nil] at split
  rw [split]
  exact List.append_nil _

/-- The buckets that a path prints: the durations of the first intervals, then all. -/
def printedBuckets (path : String) (durations : List ℚ) : List (Sample ℚ) :=
  (latencyBuckets.mapIdx fun index bucket =>
    bucketSample path bucket.text (durations.countP fun value => slot limits value ≤ index)) ++
      [bucketSample path "+Inf" durations.length]

/-- The seconds of a path. -/
def sumSample (path : String) (milliseconds : Nat) : Sample ℚ :=
  ⟨durationSum.val, [(pathLabel.val, path)], milliseconds / 1000⟩

theorem written_histogramLines (milliseconds : ℚ → Nat) (path : String) (durations : List ℚ) :
    (histogramLines path (tally milliseconds durations)).flatMap ExposedLine.written =
      printedBuckets path durations ++ [countSample path durations.length,
        sumSample path (durations.map milliseconds).sum] := by
  have count : (tally milliseconds durations).getD ((tally milliseconds durations).length - 1) 0 =
      durations.length := by
    simp [tally]
  have seconds : (tally milliseconds durations).getD ((tally milliseconds durations).length - 2) 0 =
      (durations.map milliseconds).sum := by
    simp [tally]
  have single : ∀ value : String, inOrder [(pathLabel.val, value)] = [(pathLabel.val, value)] :=
    fun value => List.mergeSort_of_pairwise (List.pairwise_singleton _ _)
  have counted : (ExposedLine.line (.sample durationCount [(pathLabel, path)]
      (durations.length : Int))).written = [countSample path durations.length] := by
    rw [ExposedLine.written, Line.written, List.map_singleton, single, countSample]
    exact congrArg (fun value : ℚ => [Sample.mk _ _ value]) (Int.cast_natCast durations.length)
  have summed : (ExposedLine.seconds durationSum [(pathLabel, path)]
      (durations.map milliseconds).sum).written =
        [sumSample path (durations.map milliseconds).sum] := by
    rw [ExposedLine.written, List.map_singleton, single]
    rfl
  have buckets : (latencyBuckets.zip (hits limits durations)).mapIdx (fun index bucket =>
      bucketSample path bucket.1.text (0 + (((latencyBuckets.zip (hits limits durations)).map
        Prod.snd).take (index + 1)).sum)) =
      latencyBuckets.mapIdx fun index bucket => bucketSample path bucket.text
        (durations.countP fun value => slot limits value ≤ index) := by
    apply List.ext_getElem
    · simp [length_hits]
    · intro index inside _
      have bounded : index < limits.length := by simpa [length_hits] using inside
      have whole : (latencyBuckets.zip (hits limits durations)).map Prod.snd =
          hits limits durations := List.map_snd_zip (by rw [length_hits]; rfl)
      rw [List.getElem_mapIdx, List.getElem_mapIdx, whole, sum_take_hits limits durations bounded,
        List.getElem_zip, Nat.zero_add]
  unfold histogramLines
  dsimp only
  rw [zip_tally, count, seconds, List.flatMap_append, written_bucketLines, buckets,
    List.flatMap_cons, List.flatMap_cons, List.flatMap_cons, written_bucketLine, counted, summed,
    printedBuckets]
  simp

/-! ## The samples of the buckets -/

theorem mem_bucketSamples {path : String} {durations : List ℚ} {sample : Sample ℚ}
    (member : sample ∈ bucketSamples path durations) :
    ∃ bound count, sample = bucketSample path bound count := by
  rcases List.mem_append.mp member with member | member
  · obtain ⟨bucket, -, rfl⟩ := List.mem_map.mp member
    exact ⟨_, _, rfl⟩
  · exact ⟨_, _, List.mem_singleton.mp member⟩

theorem mem_printedBuckets {path : String} {durations : List ℚ} {sample : Sample ℚ}
    (member : sample ∈ printedBuckets path durations) :
    ∃ bound count, sample = bucketSample path bound count := by
  rcases List.mem_append.mp member with member | member
  · obtain ⟨index, inside, rfl⟩ := List.mem_mapIdx.mp member
    exact ⟨_, _, rfl⟩
  · exact ⟨_, _, List.mem_singleton.mp member⟩

/-- What is printed is as long as what should be. -/
theorem lengths_printedBuckets (path : String) (durations : List ℚ) :
    (printedBuckets path durations).map Sample.length =
      (bucketSamples path durations).map Sample.length := rfl

/-- The bucket of the last bound. -/
theorem bucketSample_mem_iff {path other : String} {durations : List ℚ} {count : Nat} :
    bucketSample path "10" count ∈ bucketSamples other durations ↔
      path = other ∧ count = durations.countP (· ≤ (10 : ℚ)) := by
  simp [bucketSamples, latencyBuckets, bucketSample]

theorem bucketSample_mem_printedBuckets (path : String) (durations : List ℚ) :
    bucketSample path "10" (durations.countP fun value => slot limits value ≤ 7) ∈
      printedBuckets path durations := by
  refine List.mem_append_left _ (List.mem_mapIdx.mpr ⟨7, by decide, rfl⟩)

theorem limits_ascending : limits.Pairwise (· ≤ ·) := by
  simp only [limits, latencyBuckets, List.map_cons, List.map_nil]
  norm_num

/-- The last bucket counts all requests. -/
theorem countP_last (durations : List ℚ) :
    (durations.countP fun value => slot limits value ≤ 7) = durations.length := by
  rw [List.countP_eq_length]
  intro value _
  have inside : slot limits value < limits.length := slot_lt (by decide) value
  exact decide_eq_true (Nat.le_of_lt_succ inside)

/-- Where no request takes longer than the last bound, each bucket counts the requests up to its
bound. -/
theorem printedBuckets_of_le (path : String) {durations : List ℚ}
    (fast : ∀ seconds ∈ durations, seconds ≤ 10) :
    printedBuckets path durations = bucketSamples path durations := by
  rw [printedBuckets, bucketSamples]
  congr 1
  apply List.ext_getElem
  · rw [List.length_mapIdx, List.length_map]
  · intro index inside _
    rw [List.length_mapIdx] at inside
    have same : (durations.countP fun value => slot limits value ≤ index) =
        durations.countP (· ≤ latencyBuckets[index].limit) := by
      have bounded : index < 8 := inside
      rcases Nat.lt_or_ge index 7 with inner | last
      · refine List.countP_congr fun value _ => ?_
        have later : index + 1 < limits.length := Nat.succ_lt_succ inner
        have found := slot_le_iff limits_ascending later value
        rw [List.getElem_map] at found
        rw [decide_eq_true_eq, decide_eq_true_eq]
        exact found
      · obtain rfl : index = 7 := by omega
        rw [countP_last, eq_comm, List.countP_eq_length]
        exact fun value member => decide_eq_true (fast value member)
    rw [List.getElem_mapIdx, List.getElem_map]
    exact congrArg (bucketSample path latencyBuckets[index].text) same

/-- The buckets of a path count more and more requests. -/
theorem bucketSamples_ascending (path : String) (durations : List ℚ) :
    ((bucketSamples path durations).map Sample.value).Pairwise (· ≤ ·) := by
  have split : (bucketSamples path durations).map Sample.value =
      (limits.map fun limit => ((durations.countP (· ≤ limit) : Nat) : ℚ)) ++
        [(durations.length : ℚ)] := by
    rw [bucketSamples, List.map_append, List.map_map, limits, List.map_map]
    rfl
  rw [split, List.pairwise_append]
  refine ⟨List.Pairwise.map _ (fun low high less => ?_) limits_ascending,
    List.pairwise_singleton _ _, fun count member total found => ?_⟩
  · refine Nat.cast_le.mpr (List.countP_mono_left fun value _ below => ?_)
    exact decide_eq_true (le_trans (of_decide_eq_true below) less)
  · obtain ⟨limit, -, rfl⟩ := List.mem_map.mp member
    rw [List.mem_singleton.mp found]
    exact Nat.cast_le.mpr List.countP_le_length

/-! ## When the histogram is right -/

/-- Where only one entry counts, a list is as good as this entry. -/
theorem flatMap_unique {Entry Value : Type} {entries : List Entry} {entry : Entry}
    {made : Entry → List Value} (distinct : entries.Nodup) (member : entry ∈ entries)
    (others : ∀ other, other ≠ entry → made other = []) : entries.flatMap made = made entry := by
  induction entries with
  | nil => exact absurd member List.not_mem_nil
  | cons first entries inductionHypothesis =>
      rw [List.nodup_cons] at distinct
      rw [List.flatMap_cons]
      rcases List.mem_cons.mp member with rfl | member
      · have rest : entries.flatMap made = [] := by
          rw [List.flatMap_eq_nil_iff]
          exact fun other found => others other fun same => distinct.1 (same ▸ found)
        rw [rest, List.append_nil]
      · have other : first ≠ entry := fun same => distinct.1 (same ▸ member)
        rw [others first other, List.nil_append, inductionHypothesis distinct.2 member]

/-- The buckets of the other paths do not count. -/
theorem bucketValues_ascending {asked : List String} (distinct : asked.Nodup) (path : String)
    (durations : String → List ℚ) :
    (((asked.flatMap fun path => bucketSamples path (durations path)).filter
      ((pathLabel.val, path) ∈ ·.labels)).map Sample.value).Pairwise (· ≤ ·) := by
  have others : ∀ other, other ≠ path →
      (bucketSamples other (durations other)).filter ((pathLabel.val, path) ∈ ·.labels) = [] := by
    intro other different
    refine List.filter_eq_nil_iff.mpr fun sample member labelled => different ?_
    obtain ⟨bound, count, rfl⟩ := mem_bucketSamples member
    rcases List.mem_cons.mp (of_decide_eq_true labelled) with same | same
    · exact absurd (Prod.mk.inj same).1 (by decide +kernel)
    · exact (Prod.mk.inj (List.mem_singleton.mp same)).2.symm
  rw [List.filter_flatMap]
  by_cases member : path ∈ asked
  · rw [flatMap_unique distinct member others]
    exact (bucketSamples_ascending path (durations path)).sublist (List.filter_sublist.map _)
  · have none' : (asked.flatMap fun other =>
        (bucketSamples other (durations other)).filter ((pathLabel.val, path) ∈ ·.labels)) = [] := by
      rw [List.flatMap_eq_nil_iff]
      exact fun other found => others other fun same => member (same ▸ found)
    rw [none']
    exact .nil

/-- The samples that the lines of a path are written for. -/
def printed (milliseconds : ℚ → Nat) (path : String) (durations : List ℚ) : List (Sample ℚ) :=
  printedBuckets path durations ++
    [countSample path durations.length, sumSample path (durations.map milliseconds).sum]

theorem named_bucket_printed (milliseconds : ℚ → Nat) (path : String) (durations : List ℚ) :
    named durationBucket (printed milliseconds path durations) = printedBuckets path durations := by
  have buckets : named durationBucket (printedBuckets path durations) =
      printedBuckets path durations := by
    refine List.filter_eq_self.mpr fun sample member => ?_
    obtain ⟨bound, count, rfl⟩ := mem_printedBuckets member
    exact decide_eq_true rfl
  rw [printed, named_append, buckets]
  exact List.append_nil _

theorem named_count_printed (milliseconds : ℚ → Nat) (path : String) (durations : List ℚ) :
    named durationCount (printed milliseconds path durations) =
      [countSample path durations.length] := by
  have different : durationBucket.val ≠ durationCount.val := by decide +kernel
  have buckets : named durationCount (printedBuckets path durations) = [] := by
    refine List.filter_eq_nil_iff.mpr fun sample member called => ?_
    obtain ⟨bound, count, rfl⟩ := mem_printedBuckets member
    exact different (of_decide_eq_true called)
  rw [printed, named_append, buckets]
  rfl

section Text

variable (milliseconds : ℚ → Nat) (isPrintable : Char → Bool) (uptime : Int)
  (requests : List Request)

/-- The samples that the text is written for. -/
abbrev exposed : List (Sample ℚ) :=
  (lines isPrintable uptime (record milliseconds requests)).flatMap ExposedLine.written

/-- The histograms in what the text is written for. -/
theorem named_exposed :
    ∃ asked : List String, asked.Perm (paths requests) ∧
      named durationBucket (exposed milliseconds isPrintable uptime requests) =
        asked.flatMap (fun path => printedBuckets path (durations path requests)) ∧
      named durationCount (exposed milliseconds isPrintable uptime requests) =
        asked.map fun path => countSample path (durations path requests).length := by
  obtain ⟨plain, asked, same, whole, counters, -⟩ :=
    lines_record milliseconds isPrintable uptime requests
  have written : exposed milliseconds isPrintable uptime requests =
      plain.flatMap (Line.written decimals) ++
        asked.flatMap (fun path => printed milliseconds path (durations path requests)) ++
        [uptimeSample decimals uptime] := by
    have age : Line.written decimals (.sample uptimeSeconds [] uptime) =
        [uptimeSample decimals uptime] := by
      rw [Line.written, List.map_nil, inOrder_nil]
      rfl
    rw [exposed, whole, List.flatMap_append, List.flatMap_append, List.flatMap_map,
      List.flatMap_assoc]
    simp only [written_histogramLines]
    rw [List.flatMap_cons, List.flatMap_singleton]
    exact congrArg (_ ++ ·) age
  have others : ∀ {name : MetricName}, requestsTotal ≠ name →
      named name (plain.flatMap (Line.written decimals)) = [] := fun different =>
    List.filter_eq_nil_iff.mpr fun sample member called => different (Subtype.ext
      ((counters sample member).symm.trans (of_decide_eq_true called)))
  have each : ∀ name, named name (asked.flatMap fun path =>
      printed milliseconds path (durations path requests)) =
        asked.flatMap fun path =>
          named name (printed milliseconds path (durations path requests)) :=
    fun _ => List.filter_flatMap
  refine ⟨asked, same, ?_, ?_⟩
  · rw [written, named_append, named_append, others (by decide +kernel), List.nil_append, each]
    simp only [named_bucket_printed]
    exact List.append_nil _
  · rw [written, named_append, named_append, others (by decide +kernel), List.nil_append, each]
    simp only [named_count_printed]
    rw [List.map_eq_flatMap]
    exact List.append_nil _

/-- The lines of buckets have labels. -/
theorem labelled_lines :
    ∀ line ∈ lines isPrintable uptime (record milliseconds requests), Labelled line := by
  obtain ⟨plain, asked, -, whole, counters, -⟩ :=
    lines_record milliseconds isPrintable uptime requests
  rw [whole]
  intro line member
  rcases List.mem_append.mp member with member | member
  · rcases List.mem_append.mp member with member | member
    · obtain ⟨line, inside, rfl⟩ := List.mem_map.mp member
      cases line with
      | type name kind => trivial
      | sample name labels value =>
          intro called
          have counted : name.val = requestsTotal.val :=
            counters _ (List.mem_flatMap.mpr ⟨_, inside, List.mem_singleton_self _⟩)
          exact absurd (called.symm.trans (Subtype.ext counted)) (by decide +kernel)
    · obtain ⟨path, -, member⟩ := List.mem_flatMap.mp member
      rcases mem_histogramLines member with ⟨bound, -, count, rfl⟩ | ⟨count, rfl⟩ | ⟨total, rfl⟩
      · exact fun _ => List.cons_ne_nil _ _
      · exact fun _ => List.cons_ne_nil _ _
      · exact show durationSum ≠ durationBucket by decide +kernel
  · rcases List.mem_cons.mp member with rfl | member
    · trivial
    · obtain rfl := List.mem_singleton.mp member
      exact fun called => absurd called (by decide +kernel)

variable {requests}

/-- Plain methods and paths make plain lines. -/
theorem plain_lines (methods : ∀ request ∈ requests, Plain request.method)
    (plain : ∀ request ∈ requests, Plain request.path) :
    ∀ line ∈ lines isPrintable uptime (record milliseconds requests),
      ∀ value ∈ line.values, Plain value := by
  obtain ⟨counters, asked, same, whole, -, values⟩ :=
    lines_record milliseconds isPrintable uptime requests
  have bounds : ∀ bound ∈ bucketBounds, Plain bound := by decide +kernel
  rw [whole]
  intro line member
  rcases List.mem_append.mp member with member | member
  · rcases List.mem_append.mp member with member | member
    · obtain ⟨line, inside, rfl⟩ := List.mem_map.mp member
      intro value valued
      obtain ⟨request, found, rfl | rfl⟩ :=
        values value (List.mem_flatMap.mpr ⟨line, inside, valued⟩)
      · exact methods request found
      · exact plain request found
    · obtain ⟨path, found, member⟩ := List.mem_flatMap.mp member
      obtain ⟨request, inside, rfl⟩ :=
        List.mem_map.mp (List.mem_dedup.mp (same.mem_iff.mp found))
      have first := plain request inside
      rcases mem_histogramLines member with ⟨bound, known, count, rfl⟩ | ⟨count, rfl⟩ | ⟨total, rfl⟩
      · intro value valued
        rcases List.mem_cons.mp valued with rfl | valued
        · exact first
        · exact List.mem_singleton.mp valued ▸ bounds bound known
      · exact fun value valued => List.mem_singleton.mp valued ▸ first
      · exact fun value valued => List.mem_singleton.mp valued ▸ first
  · rcases List.mem_cons.mp member with rfl | member
    · exact fun value valued => absurd valued List.not_mem_nil
    · obtain rfl := List.mem_singleton.mp member
      exact fun value valued => absurd valued List.not_mem_nil

/-- Where the buckets that are read are right, no path holds a quote, a backslash or a line feed:
there is one bucket for each line of one, and none is shorter than it should be. -/
theorem HistogramCorrect.plain {samples : List (Sample ℚ)}
    (read : parse decimals (render isPrintable uptime (record milliseconds requests)) =
      some samples) (correct : HistogramCorrect requests samples) :
    ∀ request ∈ requests, Plain request.path := by
  obtain ⟨asked, same, buckets, -⟩ := named_exposed milliseconds isPrintable uptime requests
  have accounts := accounts_textOf (labelled_lines milliseconds isPrintable uptime requests) (by
    rw [parse, render, String.toList_ofList] at read
    exact read)
  have due : ∀ {α : Type} (measure : Sample ℚ → α), (∀ path durations,
      (printedBuckets path durations).map measure = (bucketSamples path durations).map measure) →
        ((named durationBucket samples).map measure).Perm
          ((named durationBucket (exposed milliseconds isPrintable uptime requests)).map
            measure) := by
    intro α measure alike
    refine (correct.buckets.map measure).trans ?_
    rw [buckets, List.map_flatMap, List.map_flatMap]
    simp only [alike]
    exact (same.flatMap_right _).symm
  have many : (named durationBucket samples).length =
      (named durationBucket (exposed milliseconds isPrintable uptime requests)).length := by
    have unit := (due (fun _ => ()) fun _ _ => rfl).length_eq
    rwa [List.length_map, List.length_map] at unit
  have long : lengths (named durationBucket samples) =
      lengths (named durationBucket (exposed milliseconds isPrintable uptime requests)) :=
    (due Sample.length lengths_printedBuckets).sum_nat
  intro request member
  have asked : request.path ∈ paths requests := List.mem_dedup.mpr (List.mem_map_of_mem member)
  have last : bucketSample request.path "+Inf" (durations request.path requests).length ∈
      named durationBucket samples :=
    correct.buckets.mem_iff.mpr (List.mem_flatMap.mpr
      ⟨request.path, asked, List.mem_append_right _ (List.mem_singleton_self _)⟩)
  exact accounts.plain many long _ last (pathLabel.val, request.path)
    (List.mem_cons_of_mem _ (List.mem_singleton_self _))

/-- The text is read as what it was written for where methods and paths are plain. -/
theorem parse_record (methods : ∀ request ∈ requests, Plain request.method)
    (plain : ∀ request ∈ requests, Plain request.path) :
    parse decimals (render isPrintable uptime (record milliseconds requests)) =
      some (exposed milliseconds isPrintable uptime requests) := by
  rw [parse, render, String.toList_ofList]
  exact readLines_textOf (plain_lines milliseconds isPrintable uptime methods plain)

/-- Where the buckets that are printed are right, no request that took longer is counted in the
bucket of ten seconds. -/
theorem HistogramCorrect.fast
    (correct : HistogramCorrect requests (exposed milliseconds isPrintable uptime requests)) :
    ∀ request ∈ requests, request.seconds ≤ 10 := by
  obtain ⟨asked, same, buckets, -⟩ := named_exposed milliseconds isPrintable uptime requests
  intro request member
  have path : request.path ∈ paths requests := List.mem_dedup.mpr (List.mem_map_of_mem member)
  have printed : bucketSample request.path "10" ((durations request.path requests).countP
      fun value => slot limits value ≤ 7) ∈
        named durationBucket (exposed milliseconds isPrintable uptime requests) := by
    rw [buckets]
    exact List.mem_flatMap.mpr
      ⟨request.path, same.mem_iff.mpr path, bucketSample_mem_printedBuckets _ _⟩
  obtain ⟨other, -, due⟩ := List.mem_flatMap.mp (correct.buckets.mem_iff.mp printed)
  obtain ⟨rfl, count⟩ := bucketSample_mem_iff.mp due
  rw [countP_last] at count
  have duration : request.seconds ∈ durations request.path requests :=
    List.mem_map_of_mem (List.mem_filter.mpr ⟨member, decide_eq_true rfl⟩)
  exact of_decide_eq_true (List.countP_eq_length.mp count.symm _ duration)

/-- Where no request takes longer than the last bound, the printed histogram is right. -/
theorem HistogramCorrect.of_le (fast : ∀ request ∈ requests, request.seconds ≤ 10) :
    HistogramCorrect requests (exposed milliseconds isPrintable uptime requests) := by
  obtain ⟨asked, same, buckets, counts⟩ := named_exposed milliseconds isPrintable uptime requests
  have right : ∀ path, printedBuckets path (durations path requests) =
      bucketSamples path (durations path requests) := fun path =>
    printedBuckets_of_le path fun seconds member => by
      obtain ⟨request, found, rfl⟩ := List.mem_map.mp member
      exact fast request (List.mem_filter.mp found).1
  simp only [right] at buckets
  refine ⟨?_, fun path => ?_, ?_⟩
  · rw [buckets]
    exact same.flatMap_right _
  · rw [bucketValues, buckets]
    exact bucketValues_ascending (same.nodup_iff.mpr (nodup_paths requests)) path
      fun path => durations path requests
  · rw [counts]
    exact same.map _

/-- What is read from the text is the right histogram for every path, exactly where no path holds a
quote, a backslash or a line feed and no request took longer than the last bound of ten seconds.
Methods are tokens, which hold none of these characters. -/
theorem histogram_correct_iff (methods : ∀ request ∈ requests, Plain request.method) :
    (∃ samples, parse decimals (render isPrintable uptime (record milliseconds requests)) =
        some samples ∧ HistogramCorrect requests samples) ↔
      ∀ request ∈ requests, Plain request.path ∧ request.seconds ≤ 10 := by
  constructor
  · rintro ⟨samples, read, correct⟩
    have plain := correct.plain milliseconds isPrintable uptime read
    rw [parse_record milliseconds isPrintable uptime methods plain] at read
    obtain rfl := Option.some.inj read
    have fast := correct.fast milliseconds isPrintable uptime
    exact fun request member => ⟨plain request member, fast request member⟩
  · intro good
    exact ⟨_, parse_record milliseconds isPrintable uptime methods fun request member =>
      (good request member).1, .of_le _ _ _ fun request member => (good request member).2⟩

end Text

/-- Two requests of a path, one of them in the tail. -/
def sampleRequests : List Request :=
  [⟨"GET", "/v1/panels/{panel_id}", 1 / 5, by norm_num⟩,
    ⟨"GET", "/v1/panels/{panel_id}", 9, by norm_num⟩]

theorem histogram_correct_sample :
    ∃ samples, parse decimals (render (fun _ => true) 60
        (record (fun seconds => (seconds * 1000).floor.toNat) sampleRequests)) = some samples ∧
      HistogramCorrect sampleRequests samples :=
  (histogram_correct_iff _ _ _ (by decide +kernel)).mpr (by
    have plain : ∀ request ∈ sampleRequests, Plain request.path := by decide +kernel
    intro request member
    refine ⟨plain request member, ?_⟩
    rcases List.mem_cons.mp member with rfl | member
    · norm_num
    · obtain rfl := List.mem_singleton.mp member
      norm_num)

/-- A request of eleven seconds is counted in the bucket of ten. -/
theorem histogram_correct_fails :
    ¬∀ (milliseconds : ℚ → Nat) (isPrintable : Char → Bool) (uptime : Int)
      (requests : List Request), ∃ samples,
        parse decimals (render isPrintable uptime (record milliseconds requests)) = some samples ∧
          HistogramCorrect requests samples := by
  intro correct
  let slow : Request := ⟨"GET", "/v1/panels", 11, by norm_num⟩
  obtain ⟨samples, read, right⟩ := correct (fun _ => 11000) (fun _ => true) 60 [slow]
  rw [parse_record _ _ _ (by decide +kernel) (by decide +kernel)] at read
  obtain rfl := Option.some.inj read
  have fast : (11 : ℚ) ≤ 10 := right.fast _ _ _ slow (List.mem_singleton_self _)
  norm_num at fast

end ControlPlane.Observability

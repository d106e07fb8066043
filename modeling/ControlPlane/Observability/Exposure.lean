import ControlPlane.Observability.Registry
import Mathlib.Data.List.Dedup
import Mathlib.Data.List.Induction
import Mathlib.Data.List.Perm.Basic

/-!
# What a scraper reads

The counters and gauges that were recorded, against the samples that are read
from the exposed text. Label values are put between quotes as they are, so
that both agree exactly where no value needs an escape.
-/

namespace ControlPlane.Observability

open Exposition

/-! ## Recordings -/

/-- A call of `inc` or `gauge`. -/
inductive Recording
  | inc (name : MetricName) (labels : Labels) (value : Int)
  | gauge (name : MetricName) (value : Int) (labels : Labels)

namespace Recording

def labels : Recording → Labels
  | inc _ labels _ => labels
  | gauge _ _ labels => labels

/-- The series that a call writes to. -/
def series : Recording → MetricName × Key
  | inc name labels _ => (name, key labels)
  | gauge name _ labels => (name, key labels)

def apply : Recording → Registry → Registry
  | inc name labels value => Observability.inc name labels value
  | gauge name value labels => Observability.gauge name value labels

/-- The number of the series that a call writes to, from the number before. -/
def next : Recording → Int → Int
  | inc _ _ value, before => before + value
  | gauge _ value _, _ => value

end Recording

/-- The registry after some calls. -/
def registryOf (recordings : List Recording) : Registry :=
  recordings.foldl (fun registry recording => recording.apply registry) .empty

/-- The number of a series after some calls. -/
def level (series : MetricName × Key) (recordings : List Recording) : Int :=
  recordings.foldl (fun before recording =>
    if recording.series = series then recording.next before else before) 0

/-- The sample of a series. -/
def sampleOf {Value : Type} (format : NumberFormat Value) (series : MetricName × Key) (value : Int) :
    Sample Value :=
  ⟨series.1.val, series.2.items.map Line.pair, format.ofInt value⟩

/-- The recorded samples: one for each series that was written to. -/
def recorded {Value : Type} (format : NumberFormat Value) (recordings : List Recording) :
    List (Sample Value) :=
  (recordings.map Recording.series).dedup.map fun series =>
    sampleOf format series (level series recordings)

/-- The sample of the process itself. -/
def uptimeSample {Value : Type} (format : NumberFormat Value) (uptime : Int) : Sample Value :=
  ⟨uptimeSeconds.val, [], format.ofInt uptime⟩

/-! ## The registry holds what was recorded -/

theorem registryOf_append (recordings : List Recording) (recording : Recording) :
    registryOf (recordings ++ [recording]) = recording.apply (registryOf recordings) := by
  rw [registryOf, List.foldl_append]
  rfl

theorem level_append (series : MetricName × Key) (recordings : List Recording)
    (recording : Recording) :
    level series (recordings ++ [recording]) =
      if recording.series = series then recording.next (level series recordings)
      else level series recordings := by
  rw [level, List.foldl_append]
  rfl

/-- A series that was not written to stands at zero. -/
theorem level_of_not_mem {series : MetricName × Key} {recordings : List Recording}
    (unwritten : series ∉ recordings.map Recording.series) : level series recordings = 0 := by
  induction recordings using List.reverseRecOn with
  | nil => rfl
  | append_singleton recordings recording inductionHypothesis =>
      rw [List.map_append, List.mem_append, not_or] at unwritten
      rw [level_append, if_neg fun same => unwritten.2 (List.mem_singleton.mpr same.symm)]
      exact inductionHypothesis unwritten.1

/-- A call changes its own series only. -/
theorem counters_apply (recording : Recording) (registry : Registry) :
    (recording.apply registry).counters = registry.counters.insert recording.series
      (recording.next ((registry.counters.lookup recording.series).getD 0)) := by
  cases recording <;> rfl

theorem lookup_registryOf (recordings : List Recording) (series : MetricName × Key) :
    (registryOf recordings).counters.lookup series =
      if series ∈ recordings.map Recording.series then some (level series recordings) else none := by
  induction recordings using List.reverseRecOn with
  | nil => rfl
  | append_singleton recordings recording inductionHypothesis =>
      rw [registryOf_append, counters_apply, List.map_append, List.map_singleton]
      by_cases same : recording.series = series
      · subst same
        have before : ((registryOf recordings).counters.lookup recording.series).getD 0 =
            level recording.series recordings := by
          rw [inductionHypothesis]
          split
          next => rfl
          next unwritten => exact (level_of_not_mem unwritten).symm
        rw [AList.lookup_insert, before,
          if_pos (List.mem_append_right _ (List.mem_singleton_self _)), level_append, if_pos rfl]
      · rw [AList.lookup_insert_ne (Ne.symm same), inductionHypothesis, level_append, if_neg same]
        refine if_congr ?_ rfl rfl
        rw [List.mem_append, List.mem_singleton]
        exact (or_iff_left (Ne.symm same)).symm

/-- The series of the registry are the ones that were written to. -/
theorem entries_registryOf (recordings : List Recording) :
    ((registryOf recordings).counters.entries.map fun entry => (entry.1, entry.2)).Perm
      ((recordings.map Recording.series).dedup.map fun series =>
        (series, level series recordings)) := by
  have distinct : ((registryOf recordings).counters.entries.map
      fun entry => (entry.1, entry.2)).Nodup := by
    refine List.Nodup.of_map Prod.fst ?_
    rw [List.map_map]
    exact (registryOf recordings).counters.keys_nodup
  have distinctSeries : ((recordings.map Recording.series).dedup.map fun series =>
      (series, level series recordings)).Nodup :=
    (List.nodup_dedup _).map fun _ _ same => (Prod.mk.inj same).1
  rw [List.perm_ext_iff_of_nodup distinct distinctSeries]
  rintro ⟨series, value⟩
  have found : (series, value) ∈ (registryOf recordings).counters.entries.map
      (fun entry => (entry.1, entry.2)) ↔
        value ∈ (registryOf recordings).counters.lookup series := by
    rw [AList.mem_lookup_iff]
    constructor
    · intro member
      obtain ⟨entry, inside, same⟩ := List.mem_map.mp member
      obtain ⟨rfl, rfl⟩ := Prod.mk.inj same
      exact inside
    · exact fun inside => List.mem_map.mpr ⟨⟨series, value⟩, inside, rfl⟩
  rw [found, lookup_registryOf]
  constructor
  · intro member
    split at member
    next written =>
      obtain rfl := Option.some.inj member
      exact List.mem_map.mpr ⟨series, List.mem_dedup.mpr written, rfl⟩
    next => cases member
  · intro member
    obtain ⟨other, written, same⟩ := List.mem_map.mp member
    obtain ⟨rfl, rfl⟩ := Prod.mk.inj same
    rw [if_pos (List.mem_dedup.mp written)]
    rfl

/-! ## The lines of the series -/

theorem sortLabels_items (labels : Key) : sortLabels labels.items = labels.items :=
  List.mergeSort_of_pairwise (labels.sorted.imp decide_eq_true)

theorem inOrder_items (labels : Key) :
    inOrder (labels.items.map Line.pair) = labels.items.map Line.pair :=
  List.mergeSort_of_pairwise (List.Pairwise.map _ (fun _ _ less => decide_eq_true less) labels.sorted)

/-- The lines of series are written for their samples. -/
theorem seriesLines_written {Value : Type} (format : NumberFormat Value)
    (kinds : AList fun _ : MetricName => Kind) (documented : List MetricName)
    (series : List Series) :
    ∃ plain : List Line, seriesLines kinds documented series = plain.map .line ∧
      plain.flatMap (Line.written format) =
        (series.map fun entry => sampleOf format entry.1 entry.2) ∧
      plain.flatMap Line.values = series.flatMap fun entry => entry.1.2.items.map Prod.snd := by
  induction series generalizing documented with
  | nil => exact ⟨[], rfl, rfl, rfl⟩
  | cons entry series inductionHypothesis =>
      obtain ⟨⟨name, labels⟩, value⟩ := entry
      have written : Line.written format (.sample name (sortLabels labels.items) value) =
          [sampleOf format (name, labels) value] := by
        rw [Line.written, sortLabels_items, inOrder_items]
        rfl
      have values : Line.values (.sample name (sortLabels labels.items) value) =
          labels.items.map Prod.snd := by
        rw [Line.values, sortLabels_items]
      unfold seriesLines
      dsimp only
      split
      · obtain ⟨plain, lines, samples, found⟩ := inductionHypothesis documented
        refine ⟨.sample name (sortLabels labels.items) value :: plain, ?_, ?_, ?_⟩
        · rw [lines, List.map_cons]
        · rw [List.flatMap_cons, written, samples, List.map_cons, List.singleton_append]
        · rw [List.flatMap_cons, values, found, List.flatMap_cons]
      · obtain ⟨plain, lines, samples, found⟩ := inductionHypothesis (name :: documented)
        refine ⟨.type name ((kinds.lookup name).getD .counter).text ::
          .sample name (sortLabels labels.items) value :: plain, ?_, ?_, ?_⟩
        · rw [lines, List.map_cons, List.map_cons]
        · rw [List.flatMap_cons, List.flatMap_cons, written, samples, List.map_cons,
            List.singleton_append]
          rfl
        · rw [List.flatMap_cons, List.flatMap_cons, values, found, List.flatMap_cons]
          rfl

/-- Latencies are recorded by `observe_latency` only. -/
theorem latency_registryOf (recordings : List Recording) :
    (registryOf recordings).latency = ∅ := by
  induction recordings using List.reverseRecOn with
  | nil => rfl
  | append_singleton recordings recording inductionHypothesis =>
      rw [registryOf_append, ← inductionHypothesis]
      cases recording <;> rfl

/-- The exposed text is written for the recorded samples and the age of the process. -/
theorem render_registryOf {Value : Type} (format : NumberFormat Value) (isPrintable : Char → Bool)
    (uptime : Int) (recordings : List Recording) :
    ∃ plain : List Line, render isPrintable uptime (registryOf recordings) = write plain ∧
      (plain.flatMap (Line.written format)).Perm
        (recorded format recordings ++ [uptimeSample format uptime]) ∧
      ∀ value, value ∈ plain.flatMap Line.values ↔
        ∃ recording ∈ recordings, ∃ label ∈ recording.labels.entries, label.2 = value := by
  have sorted : (sortedSeries isPrintable (registryOf recordings)).Perm
      ((recordings.map Recording.series).dedup.map fun series =>
        (series, level series recordings)) :=
    (List.mergeSort_perm _ _).trans (entries_registryOf recordings)
  obtain ⟨plain, seriesEq, samples, values⟩ := seriesLines_written format
    (registryOf recordings).kinds [] (sortedSeries isPrintable (registryOf recordings))
  have age : Line.written format (.sample uptimeSeconds [] uptime) = [uptimeSample format uptime] := by
    rw [Line.written, List.map_nil, inOrder_nil]
    rfl
  refine ⟨plain ++ [.type uptimeSeconds Kind.gauge.text, .sample uptimeSeconds [] uptime],
    ?_, ?_, fun value => ?_⟩
  · have whole : lines isPrintable uptime (registryOf recordings) =
        (plain ++ [Line.type uptimeSeconds Kind.gauge.text, .sample uptimeSeconds [] uptime]).map
          ExposedLine.line := by
      have none' : sortedLatency (registryOf recordings) = [] := by
        rw [sortedLatency, latency_registryOf]
        exact List.mergeSort_nil
      rw [lines, seriesEq, none', latency_registryOf, List.map_append]
      simp
    rw [render, whole, write, List.flatMap_map]
    rfl
  · rw [List.flatMap_append, samples, List.flatMap_cons, List.flatMap_singleton, age]
    refine List.Perm.append ?_ (.refl _)
    have same := sorted.map fun entry : Series => sampleOf format entry.1 entry.2
    rw [List.map_map] at same
    exact same
  · have ages : [Line.type uptimeSeconds Kind.gauge.text, .sample uptimeSeconds [] uptime].flatMap
        Line.values = [] := rfl
    rw [List.flatMap_append, ages, List.append_nil, values, (sorted.flatMap_right _).mem_iff]
    simp only [List.mem_flatMap, List.mem_map, List.mem_dedup]
    have items : ∀ recording : Recording, ∀ label : LabelName × String,
        label ∈ recording.series.2.items ↔ (⟨label.1, label.2⟩ : Sigma fun _ : LabelName => String) ∈
          recording.labels.entries := by
      intro recording label
      have keyed : recording.series.2.items =
          sortLabels (recording.labels.entries.map fun entry => (entry.1, entry.2)) := by
        cases recording <;> rfl
      rw [keyed, sortLabels, (List.mergeSort_perm _ _).mem_iff, List.mem_map]
      constructor
      · rintro ⟨entry, inside, rfl⟩
        exact inside
      · exact fun inside => ⟨_, inside, rfl⟩
    constructor
    · rintro ⟨_, ⟨_, ⟨recording, member, rfl⟩, rfl⟩, label, found, rfl⟩
      exact ⟨recording, member, _, (items recording label).mp found, rfl⟩
    · rintro ⟨recording, member, label, found, rfl⟩
      exact ⟨_, ⟨_, ⟨recording, member, rfl⟩, rfl⟩, (label.1, label.2),
        (items recording _).mpr found, rfl⟩

/-! ## When the text is read as it was recorded -/

/-- What is read from the exposed text is what was recorded, exactly where no label value holds a
quote, a backslash or a line feed. -/
theorem exposition_exact_iff {Value : Type} (format : NumberFormat Value)
    (isPrintable : Char → Bool) (uptime : Int) (recordings : List Recording) :
    (∃ samples, parse format (render isPrintable uptime (registryOf recordings)) = some samples ∧
        samples.Perm (recorded format recordings ++ [uptimeSample format uptime])) ↔
      ∀ recording ∈ recordings, ∀ label ∈ recording.labels.entries, Plain label.2 := by
  obtain ⟨plain, text, written, values⟩ := render_registryOf format isPrintable uptime recordings
  have reads := parse_write_iff format plain
  have same : (∀ line ∈ plain, ∀ value ∈ line.values, Plain value) ↔
      ∀ recording ∈ recordings, ∀ label ∈ recording.labels.entries, Plain label.2 := by
    constructor
    · intro each recording member label found
      obtain ⟨line, inside, value⟩ := List.mem_flatMap.mp
        ((values label.2).mpr ⟨recording, member, label, found, rfl⟩)
      exact each line inside label.2 value
    · intro each line inside value found
      obtain ⟨recording, member, label, labelled, rfl⟩ :=
        (values value).mp (List.mem_flatMap.mpr ⟨line, inside, found⟩)
      exact each recording member label labelled
  rw [← same, ← reads, text]
  exact exists_congr fun samples => and_congr_right fun _ =>
    ⟨fun read => read.trans written.symm, fun read => read.trans written⟩

def rateLimitedTotal : MetricName := ⟨"http_rate_limited_total", by decide +kernel⟩

/-- What `guard_rails` records of a request over the limit: its path, as the client chose it. -/
def limited (path : String) : Recording :=
  .inc rateLimitedTotal [(⟨pathLabel, path⟩ : Sigma fun _ : LabelName => String)].toAList 1

/-- A path with a quote spoils the text. -/
theorem exposition_exact_fails :
    ¬∀ recordings, ∃ samples,
      parse decimals (render (fun _ => true) 60 (registryOf recordings)) = some samples ∧
        samples.Perm (recorded decimals recordings ++ [uptimeSample decimals 60]) := by
  intro exact
  obtain ⟨samples, read, -⟩ := exact [limited "/a\"b"]
  have spoiled : parse decimals
      (render (fun _ => true) 60 (registryOf [limited "/a\"b"])) = none := by decide +kernel
  exact absurd (spoiled.symm.trans read) (Option.some_ne_none samples).symm

end ControlPlane.Observability

import MeshOnboard.Proofs.Decimal.Shortest
import MeshOnboard.Proofs.Metrics.Series
import MeshOnboard.Text.Pieces

/-!
# Reading the text of the metrics

`Exposition.readings text s` are the values that a text shows for the series `s`, in its lines that
begin with the header of `s`.  The text of a registry shows for a series the values of its samples
and nothing else, as each of its lines is a comment or begins with the header of its own series.
-/

namespace MeshOnboard

namespace Exposition

/-! ### Readings -/

/-- What a line shows for a series. -/
def shown? (s : Series) (line : List Char) : Option String :=
  if s.header.toList <+: line then some (String.ofList (line.drop s.header.toList.length))
  else none

/-- The values that a text shows for a series, in order. -/
def readings (text : String) (s : Series) : List String :=
  (Text.pieces '\n' text.toList).filterMap (shown? s)

/-- The line of a sample shows its value, and for its own series alone. -/
theorem shown?_line {s : Series} {x : Sample} (hs : s.Proper) (hx : x.series.Proper) :
  shown? s x.line.toList = if x.series = s then some (Shortest.text x.value) else none
  := by
  rw [x.line_eq, String.toList_append, shown?]
  by_cases same : x.series = s
  · simp [same]
  · rw [if_neg same, if_neg]
    rintro ⟨rest, h⟩
    exact same (Series.eq_of_header hs hx h).1.symm

theorem shown?_nil (s : Series) :
  shown? s [] = none
  := by
  simp [shown?, Series.header]

/-- A comment shows nothing. -/
theorem shown?_comment {s : Series} (hs : s.Proper) (cs : List Char) :
  shown? s ('#' :: cs) = none
  := by
  rw [shown?, if_neg]
  rintro ⟨rest, h⟩
  rw [Series.toList_header] at h
  cases signs : s.name.toList with
  | nil =>
    rw [signs] at h
    split at h <;> simp at h
  | cons c name =>
    have sign := isName_iff.1 hs.name c (by rw [signs]; exact List.mem_cons_self)
    rw [signs] at h
    split at h
    all_goals
      obtain ⟨rfl, -⟩ := List.cons.inj h
      contradiction

/-! ### Lines -/

theorem newline_not_mem_escape (s : String) :
  '\n' ∉ (escape s).toList
  := by
  rw [toList_escape, List.mem_flatMap]
  rintro ⟨c, -, h⟩
  unfold code at h
  split at h
  all_goals simp_all [eq_comm]

theorem newline_not_mem_line {x : Sample} (hx : x.series.Proper) :
  '\n' ∉ x.line.toList
  := by
  have name {n : String} (h : isName n) : '\n' ∉ n.toList :=
    fun isSign => absurd (isName_iff.1 h _ isSign) (by decide)
  have pair {l : Label} (h : l ∈ x.series.labels) : '\n' ∉ pairSigns l := by
    have value := newline_not_mem_escape l.2
    rw [toList_escape] at value
    simp [pairSigns, name (hx.labels l h), value]
  have further {ls : List Label} (h : ∀ l ∈ ls, l ∈ x.series.labels) :
      '\n' ∉ furtherSigns ls := by
    induction ls with
    | nil => simp [furtherSigns]
    | cons l ls ih =>
      obtain ⟨hl, hls⟩ := List.forall_mem_cons.1 h
      simp [furtherSigns, pair hl, ih hls]
  rw [x.line_eq, String.toList_append, Series.toList_header, List.mem_append, not_or]
  refine ⟨?_, Shortest.newline_not_mem_text _⟩
  split
  · simp [name hx.name]
  · next l ls labels =>
    rw [labels] at pair further
    simp [name hx.name, pair List.mem_cons_self, further fun l => List.mem_cons_of_mem _]

/-- The readings of lines are what the lines show, one after the other. -/
theorem readings_join {lines : List String} (h : ∀ line ∈ lines, '\n' ∉ line.toList) (s : Series) :
  readings (String.join (lines.map fun line => line ++ "\n")) s =
    lines.filterMap fun line => shown? s line.toList
  := by
  induction lines with
  | nil => simp [readings, Text.pieces, shown?_nil]
  | cons line lines ih =>
    obtain ⟨here, later⟩ := List.forall_mem_cons.1 h
    have signs : (String.join ((line :: lines).map fun line => line ++ "\n")).toList =
        line.toList ++ '\n' :: (String.join (lines.map fun line => line ++ "\n")).toList := by
      simp
    rw [readings, signs, Text.pieces_append_cons, Text.pieces_of_not_mem here, List.filterMap_append,
      ← readings, ih later]
    cases shown : shown? s line.toList <;> simp [shown]

/-! ### The samples of a registry -/

/-- The samples of one histogram. -/
def histogramSamples (name : String) (labels : List Label) (h : Histogram) : List Sample :=
  (h.buckets.map fun (bound, n) =>
    ⟨⟨name ++ "_bucket", labels ++ [("le", Shortest.text bound)]⟩, Binary.ofInt n⟩) ++
    [⟨⟨name ++ "_bucket", labels ++ [("le", "+Inf")]⟩, Binary.ofInt h.count⟩,
      ⟨⟨name ++ "_sum", labels⟩, h.sum⟩,
      ⟨⟨name ++ "_count", labels⟩, Binary.ofInt h.count⟩]

theorem histogramLines_eq (name : String) (labels : List Label) (h : Histogram) :
  histogramLines name labels h = (histogramSamples name labels h).map Sample.line
  := by
  simp [histogramLines, histogramSamples, Sample.line]

/-- The samples of counters that differ in one label. -/
def counterSamples (name label : String) (t : Table String Nat) : List Sample :=
  (sorted t).flatMap fun (value, n) => [⟨⟨name, [(label, value)]⟩, Binary.ofInt n⟩]

theorem counterLines_eq (name label : String) (t : Table String Nat) :
  counterLines name label t = (counterSamples name label t).map Sample.line
  := by
  simp [counterLines, counterSamples, Sample.line, List.map_eq_flatMap, List.flatMap_assoc]

variable {s : Series} {name label help kind : String}

theorem Series.Proper.of_label (hn : isName name) (hl : isName label) (value : String) :
  (⟨name, [(label, value)]⟩ : Series).Proper
  := ⟨hn, by simpa using hl⟩

variable {labels : List Label}

theorem Series.Proper.suffixed (h : (⟨name, labels⟩ : Series).Proper) {suffix : String}
    (hs : isName suffix) :
  (⟨name ++ suffix, labels⟩ : Series).Proper
  := by
  refine ⟨?_, h.labels⟩
  rw [isName_append, Bool.and_eq_true]
  exact ⟨h.name, hs⟩

theorem Series.Proper.bucket (h : (⟨name, labels⟩ : Series).Proper) (bound : String) :
  (⟨name ++ "_bucket", labels ++ [("le", bound)]⟩ : Series).Proper
  := by
  refine ⟨(h.suffixed rfl).name, List.forall_mem_append.2 ⟨h.labels, ?_⟩⟩
  rw [List.forall_mem_singleton]
  exact (rfl : isName "le" = true)

theorem proper_of_mem_histogramSamples {h : Histogram} {x : Sample}
    (proper : (⟨name, labels⟩ : Series).Proper) (hx : x ∈ histogramSamples name labels h) :
  x.series.Proper
  := by
  rcases List.mem_append.1 hx with bucket | last
  · obtain ⟨⟨bound, n⟩, -, rfl⟩ := List.mem_map.1 bucket
    exact proper.bucket _
  · simp only [List.mem_cons, List.not_mem_nil, or_false] at last
    rcases last with rfl | rfl | rfl
    · exact proper.bucket _
    · exact proper.suffixed rfl
    · exact proper.suffixed rfl

theorem proper_of_mem_counterSamples {t : Table String Nat} {x : Sample}
    (hn : isName name) (hl : isName label)
    (hx : x ∈ counterSamples name label t) :
  x.series.Proper
  := by
  obtain ⟨⟨value, n⟩, -, h⟩ := List.mem_flatMap.1 hx
  obtain rfl := List.mem_singleton.1 h
  exact .of_label hn hl value

theorem family_eq (series : List String) :
  family name help kind series =
    if series = [] then []
    else ("# HELP " ++ name ++ " " ++ help) :: ("# TYPE " ++ name ++ " " ++ kind) :: series
  := rfl

/-- The values of the samples of a series, as texts. -/
def valuesOf (s : Series) (xs : List Sample) : List String :=
  (xs.filter (·.series = s)).map fun x => Shortest.text x.value

/-- The lines of a family show the values of its samples. -/
theorem filterMap_family (hs : s.Proper) {xs : List Sample} (hxs : ∀ x ∈ xs, x.series.Proper) :
  ((family name help kind (xs.map Sample.line)).filterMap fun line => shown? s line.toList) =
    valuesOf s xs
  := by
  have samples : (xs.map Sample.line).filterMap (fun line => shown? s line.toList) =
      valuesOf s xs := by
    induction xs with
    | nil => rfl
    | cons x xs ih =>
      obtain ⟨hx, hxs⟩ := List.forall_mem_cons.1 hxs
      specialize ih hxs
      rw [valuesOf] at ih ⊢
      by_cases same : x.series = s
      · simp [shown?_line hs hx, same, ih]
      · simp [shown?_line hs hx, same, ih]
  rw [family_eq]
  split
  · next none =>
    rw [← samples, none]
  · rw [List.filterMap_cons_none, List.filterMap_cons_none, samples]
    · simp [shown?_comment hs]
    · simp [shown?_comment hs]

theorem newline_not_mem_family
    (comment : '\n' ∉ name.toList ∧ '\n' ∉ help.toList ∧ '\n' ∉ kind.toList)
    {xs : List Sample} (hxs : ∀ x ∈ xs, x.series.Proper) {line : String}
    (h : line ∈ family name help kind (xs.map Sample.line)) :
  '\n' ∉ line.toList
  := by
  rw [family_eq] at h
  split at h
  · contradiction
  · simp only [List.mem_cons] at h
    rcases h with rfl | rfl | sample
    · simp_all
    · simp_all
    · obtain ⟨x, hx, rfl⟩ := List.mem_map.1 sample
      exact newline_not_mem_line (hxs x hx)

end Exposition

namespace Registry

open Exposition

variable (r : Registry)

def durationSamples : List Sample :=
  r.syncDurations.toList.flatMap (histogramSamples syncDurationName [])

def teamSamples : List Sample :=
  r.teams.toList.map fun n => ⟨⟨"nerf_directory_teams", []⟩, Binary.ofInt n.toInt⟩

def latencySamples : List Sample :=
  (sorted r.latencies).flatMap fun (host, h) =>
    histogramSamples "nerf_endpoint_probe_latency_seconds" [("remote_host", host)] h

/-- The samples of the metrics, family after family. -/
def samples : List Sample :=
  r.durationSamples ++ counterSamples "nerf_directory_syncs_total" "outcome" r.syncs ++
    r.teamSamples ++
    counterSamples "nerf_endpoint_probe_failures_total" "remote_host" r.failures ++
    r.latencySamples

theorem lines_eq :
  r.lines =
    family syncDurationName "Time spent rebuilding the directory cache" "histogram"
      (r.durationSamples.map Sample.line) ++
    family "nerf_directory_syncs_total" "Directory rebuilds by outcome" "counter"
      ((counterSamples "nerf_directory_syncs_total" "outcome" r.syncs).map Sample.line) ++
    family "nerf_directory_teams" "Number of teams in the directory cache" "gauge"
      (r.teamSamples.map Sample.line) ++
    family "nerf_endpoint_probe_failures_total" "Relay probes that did not yield a latency"
      "counter"
      ((counterSamples "nerf_endpoint_probe_failures_total" "remote_host" r.failures).map
        Sample.line) ++
    family "nerf_endpoint_probe_latency_seconds" "Round-trip latency of successful relay probes"
      "histogram" (r.latencySamples.map Sample.line)
  := by
  rw [lines, counterLines_eq, counterLines_eq, durationSamples, teamSamples, latencySamples,
    List.map_flatMap, List.map_flatMap, List.map_map]
  simp only [← histogramLines_eq]
  rfl

theorem proper_of_mem_durationSamples {x : Sample} (hx : x ∈ r.durationSamples) :
  x.series.Proper
  := by
  obtain ⟨h, -, hx⟩ := List.mem_flatMap.1 hx
  exact proper_of_mem_histogramSamples ⟨rfl, by decide⟩ hx

theorem proper_of_mem_teamSamples {x : Sample} (hx : x ∈ r.teamSamples) :
  x.series.Proper
  := by
  have proper : (⟨"nerf_directory_teams", []⟩ : Series).Proper := ⟨rfl, by decide⟩
  obtain ⟨n, -, rfl⟩ := List.mem_map.1 hx
  exact proper

theorem proper_of_mem_latencySamples {x : Sample} (hx : x ∈ r.latencySamples) :
  x.series.Proper
  := by
  obtain ⟨⟨host, h⟩, -, hx⟩ := List.mem_flatMap.1 hx
  exact proper_of_mem_histogramSamples (.of_label rfl rfl host) hx

theorem newline_not_mem_lines {line : String} (h : line ∈ r.lines) :
  '
' ∉ line.toList
  := by
  rw [lines_eq] at h
  simp only [List.mem_append] at h
  rcases h with (((durations | syncs) | teams) | failures) | latencies
  · exact newline_not_mem_family (by decide) (fun _ => r.proper_of_mem_durationSamples) durations
  · exact newline_not_mem_family (by decide)
      (fun _ => proper_of_mem_counterSamples rfl rfl) syncs
  · exact newline_not_mem_family (by decide) (fun _ => r.proper_of_mem_teamSamples) teams
  · exact newline_not_mem_family (by decide)
      (fun _ => proper_of_mem_counterSamples rfl rfl) failures
  · exact newline_not_mem_family (by decide) (fun _ => r.proper_of_mem_latencySamples) latencies

/-- The text of a registry shows for a series the values of its samples. -/
theorem readings_text {s : Series} (hs : s.Proper) :
  readings r.text s = valuesOf s r.samples
  := by
  rw [text, readings_join (fun _ => r.newline_not_mem_lines), lines_eq]
  simp only [List.filterMap_append]
  rw [filterMap_family hs fun _ => r.proper_of_mem_durationSamples,
    filterMap_family hs fun _ => proper_of_mem_counterSamples rfl rfl,
    filterMap_family hs fun _ => r.proper_of_mem_teamSamples,
    filterMap_family hs fun _ => proper_of_mem_counterSamples rfl rfl,
    filterMap_family hs fun _ => r.proper_of_mem_latencySamples]
  simp [samples, valuesOf]

end Registry

end MeshOnboard

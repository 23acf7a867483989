import MeshOnboard.Proofs.Metrics.Bounds
import MeshOnboard.Proofs.Metrics.Reading
import MeshOnboard.Proofs.Metrics.Tallies
import Mathlib.Data.List.Perm.Basic

/-!
# What a text shows for each series

The series of a registry belong to families whose names are apart, and those of a host carry the
name of the host.  So what the text of a registry shows for a series is found in one entry of the
registry.
-/

namespace MeshOnboard

namespace Exposition

variable {s : Series} {name label : String} {labels : List Label}

/-- The text of a whole number. -/
def numeral (n : Int) : String := Shortest.text (Binary.ofInt n)

/-! ### The values of a series -/

theorem valuesOf_append (xs ys : List Sample) :
  valuesOf s (xs ++ ys) = valuesOf s xs ++ valuesOf s ys
  := by
  simp [valuesOf]

theorem valuesOf_flatMap {α : Type} (as : List α) (f : α → List Sample) :
  valuesOf s (as.flatMap f) = as.flatMap fun a => valuesOf s (f a)
  := by
  rw [valuesOf, List.filter_flatMap, List.map_flatMap]
  rfl

theorem valuesOf_eq_nil {xs : List Sample} (h : ∀ x ∈ xs, x.series ≠ s) :
  valuesOf s xs = []
  := by
  rw [valuesOf, List.map_eq_nil_iff, List.filter_eq_nil_iff]
  simpa using h

section

variable {ν α : Type} {f : String × ν → List α}

/-- Of entries with distinct keys one alone concerns a key. -/
theorem flatMap_of_nodup {es : List (String × ν)} (distinct : (es.map Prod.fst).Nodup)
    {e : String × ν} (he : e ∈ es) (other : ∀ e' ∈ es, e'.1 ≠ e.1 → f e' = []) :
  es.flatMap f = f e
  := by
  obtain ⟨before, after, rfl⟩ := List.append_of_mem he
  rw [List.map_append, List.map_cons, List.nodup_middle, List.nodup_cons,
    ← List.map_append] at distinct
  have others : ∀ e' ∈ before ++ after, f e' = [] := by
    intro e' he'
    apply other e'
    · simp only [List.mem_append, List.mem_cons] at he' ⊢
      exact he'.imp_right .inr
    · intro same
      exact distinct.1 (same ▸ List.mem_map_of_mem he')
  obtain ⟨first, last⟩ := List.forall_mem_append.1 others
  rw [List.flatMap_append, List.flatMap_cons, List.flatMap_eq_nil_iff.2 first,
    List.flatMap_eq_nil_iff.2 last]
  simp

/-- In the sorted entries of a table a key is found at most once. -/
theorem flatMap_sorted (t : Table String ν) {k : String} (other : ∀ e, e.1 ≠ k → f e = []) :
  (sorted t).flatMap f = (t.find? k).toList.flatMap fun v => f (k, v)
  := by
  have perm : (sorted t).Perm t.entries := List.mergeSort_perm _ _
  cases found : t.find? k with
  | none =>
    have absent : ∀ e ∈ sorted t, f e = [] := by
      intro e he
      apply other
      rintro rfl
      rw [Table.find?_eq_some_iff.2 (perm.mem_iff.1 he)] at found
      contradiction
    rw [List.flatMap_eq_nil_iff.2 absent]
    rfl
  | some v =>
    have distinct : ((sorted t).map Prod.fst).Nodup := (perm.map Prod.fst).nodup_iff.2 t.nodup
    have there : (k, v) ∈ sorted t := perm.mem_iff.2 (Table.find?_eq_some_iff.1 found)
    rw [flatMap_of_nodup distinct there fun e _ => other e]
    simp

end

theorem series_of_mem_counterSamples {t : Table String Nat} {x : Sample}
    (hx : x ∈ counterSamples name label t) :
  ∃ value, x.series = ⟨name, [(label, value)]⟩
  := by
  obtain ⟨⟨value, n⟩, -, h⟩ := List.mem_flatMap.1 hx
  obtain rfl := List.mem_singleton.1 h
  exact ⟨value, rfl⟩

/-- Series of other names have no value in a counter. -/
theorem valuesOf_counterSamples_eq_nil {t : Table String Nat} (other : s.name ≠ name) :
  valuesOf s (counterSamples name label t) = []
  := by
  apply valuesOf_eq_nil
  rintro x hx rfl
  obtain ⟨value, series⟩ := series_of_mem_counterSamples hx
  rw [series] at other
  contradiction

/-- The value of a counter. -/
theorem valuesOf_counter (t : Table String Nat) (value : String) :
  valuesOf ⟨name, [(label, value)]⟩ (counterSamples name label t) =
    (t.find? value).toList.map fun n : Nat => numeral n
  := by
  rw [counterSamples, valuesOf_flatMap, flatMap_sorted t (k := value)]
  · cases t.find? value <;> simp [valuesOf, numeral]
  · intro e other
    apply valuesOf_eq_nil
    simpa using other

/-! ### The series of a histogram -/

/-- The names of the series of a histogram. -/
def histogramNames (name : String) : List String :=
  [name ++ "_bucket", name ++ "_sum", name ++ "_count"]

theorem series_of_mem_histogramSamples {h : Histogram} {x : Sample}
    (hx : x ∈ histogramSamples name labels h) :
  x.series.name ∈ histogramNames name ∧ ∀ l ∈ x.series.labels, l ∈ labels ∨ l.1 = "le"
  := by
  have bucket (bound : String) : ∀ l ∈ labels ++ [("le", bound)], l ∈ labels ∨ l.1 = "le" := by
    rw [List.forall_mem_append, List.forall_mem_singleton]
    exact ⟨fun l => .inl, .inr rfl⟩
  rcases List.mem_append.1 hx with finite | last
  · obtain ⟨⟨bound, n⟩, -, rfl⟩ := List.mem_map.1 finite
    exact ⟨by simp [histogramNames], bucket _⟩
  · simp only [List.mem_cons, List.not_mem_nil, or_false] at last
    rcases last with rfl | rfl | rfl
    · exact ⟨by simp [histogramNames], bucket _⟩
    · exact ⟨by simp [histogramNames], fun l => .inl⟩
    · exact ⟨by simp [histogramNames], fun l => .inl⟩

/-- Series of other names have no value in a histogram. -/
theorem valuesOf_histogramSamples_eq_nil (h : Histogram) (other : s.name ∉ histogramNames name) :
  valuesOf s (histogramSamples name labels h) = []
  := by
  apply valuesOf_eq_nil
  rintro x hx rfl
  exact other (series_of_mem_histogramSamples hx).1

theorem valuesOf_bucket_eq (h : Histogram) (bound : String) :
  valuesOf ⟨name ++ "_bucket", labels ++ [("le", bound)]⟩ (histogramSamples name labels h) =
    (h.buckets.flatMap fun b => if Shortest.text b.1 = bound then [numeral b.2] else []) ++
      if bound = "+Inf" then [numeral h.count] else []
  := by
  rw [histogramSamples, valuesOf_append, List.map_eq_flatMap, valuesOf_flatMap]
  congr 1
  · congr 1
    funext b
    by_cases same : Shortest.text b.1 = bound
    · simp [valuesOf, same, numeral]
    · simp [valuesOf, same]
  · by_cases same : bound = "+Inf"
    · simp [valuesOf, same, numeral]
    · simp [valuesOf, same, Ne.symm same]

/-- The count of a histogram. -/
theorem valuesOf_count (h : Histogram) :
  valuesOf ⟨name ++ "_count", labels⟩ (histogramSamples name labels h) = [numeral h.count]
  := by
  rw [histogramSamples, valuesOf_append, valuesOf_eq_nil]
  · simp [valuesOf, numeral]
  · intro x hx
    obtain ⟨⟨bound, n⟩, -, rfl⟩ := List.mem_map.1 hx
    simp

section

variable {limits : List Limit} {bounds : List Rat} (describes : Describes limits bounds)
  (xs : List Rat)

include describes

/-- The bucket of a limit holds the observations that are at most its bound. -/
theorem valuesOf_bucket {l : Limit} (hl : l ∈ limits) :
  valuesOf ⟨name ++ "_bucket", labels ++ [("le", l.1)]⟩
      (histogramSamples name labels (.observeAll bounds xs)) =
    [numeral (xs.countP (· ≤ Binary.round l.2))]
  := by
  have finite : l.1 ≠ "+Inf" := by
    rintro same
    exact describes.finite (same ▸ List.mem_map_of_mem hl)
  have other : ∀ l' ∈ limits, l'.1 ≠ l.1 → Shortest.text (Binary.round l'.2) ≠ l.1 := by
    intro l' hl' different
    rwa [describes.text l' hl']
  rw [valuesOf_bucket_eq, if_neg finite, Histogram.buckets_observeAll, describes.bounds,
    List.flatMap_map, List.flatMap_map, flatMap_of_nodup describes.distinct hl]
  · simp [describes.text l hl]
  · intro l' hl' different
    simp [other l' hl' different]

/-- The last bucket holds all observations. -/
theorem valuesOf_last_bucket :
  valuesOf ⟨name ++ "_bucket", labels ++ [("le", "+Inf")]⟩
      (histogramSamples name labels (.observeAll bounds xs)) =
    [numeral xs.length]
  := by
  have other : ∀ l ∈ limits, Shortest.text (Binary.round l.2) ≠ "+Inf" := by
    intro l hl same
    rw [describes.text l hl] at same
    exact describes.finite (same ▸ List.mem_map_of_mem hl)
  rw [valuesOf_bucket_eq, if_pos rfl, Histogram.buckets_observeAll, describes.bounds,
    Histogram.count_observeAll, List.flatMap_map, List.flatMap_map, List.flatMap_eq_nil_iff.2]
  · rfl
  · intro l hl
    simp [other l hl]

end

end Exposition

namespace Registry

open Exposition

/-! ### The series of a registry -/

/-- The rebuilds of an outcome. -/
def outcomeSeries (outcome : String) : Series :=
  ⟨"nerf_directory_syncs_total", [("outcome", outcome)]⟩

/-- The teams of the last successful rebuild. -/
def teamsSeries : Series := ⟨"nerf_directory_teams", []⟩

/-- The name of the probes that were not answered. -/
def failuresName : String := "nerf_endpoint_probe_failures_total"

/-- The probes that a host left unanswered. -/
def unansweredSeries (host : String) : Series := ⟨failuresName, [("remote_host", host)]⟩

/-- The name of the latencies of probes. -/
def latencyName : String := "nerf_endpoint_probe_latency_seconds"

theorem failuresName_not_mem :
  failuresName ∉ histogramNames latencyName
  := by decide

variable (r : Registry) {s : Series}

theorem valuesOf_samples (s : Series) :
  valuesOf s r.samples =
    valuesOf s r.durationSamples ++
    (valuesOf s (counterSamples "nerf_directory_syncs_total" "outcome" r.syncs) ++
    (valuesOf s r.teamSamples ++
    (valuesOf s (counterSamples failuresName "remote_host" r.failures) ++
    valuesOf s r.latencySamples)))
  := by
  simp [samples, valuesOf_append, failuresName]

theorem valuesOf_durationSamples_eq_nil (h : s.name ∉ histogramNames syncDurationName) :
  valuesOf s r.durationSamples = []
  := by
  rw [durationSamples, valuesOf_flatMap]
  simp [valuesOf_histogramSamples_eq_nil _ h]

theorem valuesOf_teamSamples_eq_nil (h : s ≠ teamsSeries) :
  valuesOf s r.teamSamples = []
  := by
  apply valuesOf_eq_nil
  rintro x hx rfl
  obtain ⟨n, -, rfl⟩ := List.mem_map.1 hx
  exact h rfl

theorem valuesOf_latencySamples_eq_nil (h : s.name ∉ histogramNames latencyName) :
  valuesOf s r.latencySamples = []
  := by
  rw [latencySamples, valuesOf_flatMap]
  rw [latencyName] at h
  simp [valuesOf_histogramSamples_eq_nil _ h]

/-- The readings of the rebuilds of an outcome. -/
theorem readings_outcome (outcome : String) :
  readings r.text (outcomeSeries outcome) =
    (r.syncs.find? outcome).toList.map fun n : Nat => numeral n
  := by
  have proper : (outcomeSeries outcome).Proper := .of_label rfl rfl outcome
  have name : (outcomeSeries outcome).name = "nerf_directory_syncs_total" := rfl
  have failures : valuesOf (outcomeSeries outcome)
      (counterSamples failuresName "remote_host" r.failures) = [] :=
    valuesOf_counterSamples_eq_nil (name ▸ by decide)
  rw [readings_text r proper, valuesOf_samples, failures,
    valuesOf_durationSamples_eq_nil r (name ▸ by decide), valuesOf_teamSamples_eq_nil r,
    valuesOf_latencySamples_eq_nil r (name ▸ by decide)]
  · simp [outcomeSeries, valuesOf_counter]
  · simp [outcomeSeries, teamsSeries]

/-- The readings of the gauge. -/
theorem readings_teams :
  readings r.text teamsSeries = r.teams.toList.map fun n => numeral n.toInt
  := by
  rw [readings_text r ⟨rfl, by decide⟩, valuesOf_samples,
    valuesOf_durationSamples_eq_nil r (by decide), valuesOf_counterSamples_eq_nil (by decide),
    valuesOf_counterSamples_eq_nil (by decide), valuesOf_latencySamples_eq_nil r (by decide)]
  cases teams : r.teams with
  | none => simp [teamSamples, teams, valuesOf]
  | some n => simp [teamSamples, teams, valuesOf, teamsSeries, numeral]

/-- The readings of the durations of rebuilds. -/
theorem readings_durations (hs : s.Proper) (name : s.name ∈ histogramNames syncDurationName) :
  readings r.text s =
    r.syncDurations.toList.flatMap fun h => valuesOf s (histogramSamples syncDurationName [] h)
  := by
  obtain ⟨syncs, failures, teams, latencies⟩ : s.name ≠ "nerf_directory_syncs_total" ∧
      s.name ≠ failuresName ∧ s.name ≠ teamsSeries.name ∧ s.name ∉ histogramNames latencyName := by
    revert name
    generalize s.name = n
    decide +revert
  rw [readings_text r hs, valuesOf_samples, valuesOf_counterSamples_eq_nil syncs,
    valuesOf_counterSamples_eq_nil failures, valuesOf_teamSamples_eq_nil r,
    valuesOf_latencySamples_eq_nil r latencies, durationSamples, valuesOf_flatMap]
  · simp
  · rintro rfl
    exact teams rfl

/-- The readings of a series of a host. -/
theorem readings_of_host {host : String} (hs : s.Proper) (label : ("remote_host", host) ∈ s.labels) :
  readings r.text s =
    ((r.failures.find? host).toList.flatMap fun n : Nat =>
      valuesOf s [⟨unansweredSeries host, Binary.ofInt n⟩]) ++
    (r.latencies.find? host).toList.flatMap fun h =>
      valuesOf s (histogramSamples latencyName [("remote_host", host)] h)
  := by
  -- no family of rebuilds has the label of a host
  have durations : valuesOf s r.durationSamples = [] := by
    apply valuesOf_eq_nil
    rintro x hx rfl
    obtain ⟨_, -, hx⟩ := List.mem_flatMap.1 hx
    simpa using (series_of_mem_histogramSamples hx).2 _ label
  have syncs : valuesOf s (counterSamples "nerf_directory_syncs_total" "outcome" r.syncs) = [] := by
    apply valuesOf_eq_nil
    rintro x hx rfl
    obtain ⟨value, series⟩ := series_of_mem_counterSamples hx
    simp [series] at label
  have teams : valuesOf s r.teamSamples = [] := by
    apply valuesOf_teamSamples_eq_nil
    rintro rfl
    contradiction
  rw [readings_text r hs, valuesOf_samples, durations, syncs, teams, counterSamples,
    valuesOf_flatMap, latencySamples, valuesOf_flatMap, flatMap_sorted r.failures (k := host),
    flatMap_sorted r.latencies (k := host)]
  · rfl
  · intro e other
    apply valuesOf_eq_nil
    rintro x hx rfl
    rcases (series_of_mem_histogramSamples hx).2 _ label with own | bound
    · simp [Ne.symm other] at own
    · simp at bound
  · intro e other
    apply valuesOf_eq_nil
    rintro x hx rfl
    obtain rfl := List.mem_singleton.1 hx
    simp [Ne.symm other] at label

/-- The readings of the probes that a host left unanswered. -/
theorem readings_unanswered (host : String) :
  readings r.text (unansweredSeries host) =
    (r.failures.find? host).toList.map fun n : Nat => numeral n
  := by
  have own (n : Nat) : valuesOf (unansweredSeries host) [⟨unansweredSeries host, Binary.ofInt n⟩] =
      [numeral n] := by
    simp [valuesOf, numeral]
  have other (h : Histogram) :
      valuesOf (unansweredSeries host) (histogramSamples latencyName [("remote_host", host)] h) =
        [] :=
    valuesOf_histogramSamples_eq_nil h failuresName_not_mem
  have proper : (unansweredSeries host).Proper := .of_label rfl rfl host
  rw [readings_of_host r proper List.mem_cons_self]
  simp [own, other, List.map_eq_flatMap]

/-- The readings of the latencies of a host. -/
theorem readings_latencies {host : String} (hs : s.Proper)
    (name : s.name ∈ histogramNames latencyName) (label : ("remote_host", host) ∈ s.labels) :
  readings r.text s =
    (r.latencies.find? host).toList.flatMap fun h =>
      valuesOf s (histogramSamples latencyName [("remote_host", host)] h)
  := by
  have other (n : Nat) : valuesOf s [⟨unansweredSeries host, Binary.ofInt n⟩] = [] := by
    apply valuesOf_eq_nil
    rintro x hx rfl
    obtain rfl := List.mem_singleton.1 hx
    exact failuresName_not_mem name
  rw [readings_of_host r hs label]
  simp [other]

end Registry

end MeshOnboard

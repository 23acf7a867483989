import MeshOnboard.Proofs.Metrics.Values

/-!
# Metrics account for events

`Accounts text es` says that a text shows what the events `es` add up to: the rebuilds of each
outcome, the durations of rebuilds, the teams of the last successful one, and for each host the
latencies of its probes and those that it left unanswered.
-/

namespace MeshOnboard

namespace Exposition

variable {s : Series} {name : String} {labels : List Label}

/-! ### Histograms -/

/-- What is shown of a number once there are events that concern it. -/
def shown (events n : Nat) : List String := if events = 0 then [] else [numeral n]

/-- A text shows a histogram of the observations `xs`. -/
structure ShowsHistogram (text name : String) (labels : List Label) (limits : List Limit)
    (xs : List Rat) : Prop where
  count : readings text ⟨name ++ "_count", labels⟩ = shown xs.length xs.length
  /-- The bucket of a limit shows how many observations are at most the limit. -/
  bucket : ∀ l ∈ limits, readings text ⟨name ++ "_bucket", labels ++ [("le", l.1)]⟩ =
    shown xs.length (xs.countP (· ≤ l.2))
  last : readings text ⟨name ++ "_bucket", labels ++ [("le", "+Inf")]⟩ = shown xs.length xs.length
  /-- The buckets never decrease. -/
  rising : limits.Pairwise fun l l' =>
    xs.countP (· ≤ l.2) ≤ xs.countP (· ≤ l'.2) ∧ xs.countP (· ≤ l'.2) ≤ xs.length

/-- A text that shows the series of a histogram shows the exact observations, if rounding does not
turn the order of observations and limits around. -/
theorem showsHistogram {text : String} {limits : List Limit} {bounds : List Rat} {α : Type}
    {value exact : α → Rat} (describes : Describes limits bounds)
    (agrees : ∀ l ∈ limits, ∀ a, value a ≤ Binary.round l.2 ↔ exact a ≤ l.2) (as : List α)
    (proper : (⟨name, labels⟩ : Series).Proper)
    (reads : ∀ s : Series, s.Proper → s.name ∈ histogramNames name → labels ⊆ s.labels →
      readings text s = (Histogram.observed? bounds (as.map value)).toList.flatMap fun h =>
        valuesOf s (histogramSamples name labels h)) :
  ShowsHistogram text name labels limits (as.map exact)
  := by
  -- a series of the histogram that has the value of `n` in it shows `n`
  have one {s : Series} {n : Nat} (hs : s.Proper) (hn : s.name ∈ histogramNames name)
      (hl : labels ⊆ s.labels)
      (h : valuesOf s (histogramSamples name labels (.observeAll bounds (as.map value))) =
        [numeral n]) :
      readings text s = shown (as.map exact).length n := by
    rw [reads s hs hn hl, Histogram.observed?, shown, List.length_map]
    cases as with
    | nil => rfl
    | cons a as => simpa using h
  have bucketName : name ++ "_bucket" ∈ histogramNames name := by simp [histogramNames]
  have countName : name ++ "_count" ∈ histogramNames name := by simp [histogramNames]
  refine ⟨?_, fun l hl => ?_, ?_, ?_⟩
  · apply one (proper.suffixed rfl) countName (List.Subset.refl labels)
    rw [valuesOf_count, Histogram.count_observeAll, List.length_map, List.length_map]
  · apply one (proper.bucket l.1) bucketName (List.subset_append_left _ _)
    rw [valuesOf_bucket describes _ hl, List.countP_map, List.countP_map]
    simp [Function.comp_def, agrees l hl]
  · apply one (proper.bucket "+Inf") bucketName (List.subset_append_left _ _)
    rw [valuesOf_last_bucket describes, List.length_map, List.length_map]
  · refine describes.rising.imp fun {l l'} h => ⟨List.countP_mono_left ?_, List.countP_le_length⟩
    intro x _ fits
    rw [decide_eq_true_eq] at fits ⊢
    exact fits.trans h

end Exposition

namespace Registry

open Exposition MetricEvent

variable {s : Series}

/-! ### Accounts -/

/-- What a text shows after events. -/
structure Accounts (text : String) (es : List MetricEvent) : Prop where
  outcome : ∀ outcome, readings text (outcomeSeries outcome) =
    let n := es.countP (·.outcome? = some outcome)
    shown n n
  durations : ShowsHistogram text syncDurationName [] syncLimits
    ((es.filterMap elapsed?).map Duration.exactSeconds)
  /-- Each rebuild has a duration. -/
  rebuilds : (es.filterMap elapsed?).length =
    es.countP (·.outcome? = some "success") + es.countP (·.outcome? = some "failure")
  teams : readings text teamsSeries =
    ((es.filterMap teams?).getLast?.map fun n => numeral n.toInt64.toInt).toList
  latencies : ∀ host, ShowsHistogram text latencyName [("remote_host", host)] latencyLimits
    ((es.filterMap (millis? host)).map fun millis => (millis.toNat : Rat) / 1000)
  unanswered : ∀ host, readings text (unansweredSeries host) =
    let n := es.countP (isUnanswered host)
    shown n n
  /-- Each probe of a host is answered or unanswered. -/
  probes : ∀ host, (es.filterMap (millis? host)).length + es.countP (isUnanswered host) =
    es.countP (·.host? = some host)

theorem map_numeral_tally (n : Nat) :
  (tally n).toList.map (fun n : Nat => numeral n) = shown n n
  := by
  rw [tally, shown]
  split <;> rfl

/-- What each event counts for in two ways the events count for together. -/
theorem countP_add_countP {p q both : MetricEvent → Bool}
    (h : ∀ e, (p e).toNat + (q e).toNat = (both e).toNat) (es : List MetricEvent) :
  es.countP p + es.countP q = es.countP both
  := by
  have count (p : MetricEvent → Bool) (e : MetricEvent) (es : List MetricEvent) :
      (e :: es).countP p = es.countP p + (p e).toNat := by
    rw [List.countP_cons]
    cases p e <;> rfl
  induction es with
  | nil => rfl
  | cons e es ih =>
    rw [count, count, count, ← ih, ← h e]
    omega

theorem length_filterMap_elapsed? (es : List MetricEvent) :
  (es.filterMap elapsed?).length =
    es.countP (·.outcome? = some "success") + es.countP (·.outcome? = some "failure")
  := by
  rw [List.length_filterMap_eq_countP, countP_add_countP]
  rintro (⟨elapsed, teams⟩ | elapsed | ⟨host, latency⟩) <;> rfl

theorem length_filterMap_millis? (host : String) (es : List MetricEvent) :
  (es.filterMap (millis? host)).length + es.countP (isUnanswered host) =
    es.countP (·.host? = some host)
  := by
  rw [List.length_filterMap_eq_countP, countP_add_countP]
  rintro (⟨elapsed, teams⟩ | elapsed | ⟨probed, millis | reason⟩)
  · rfl
  · rfl
  · by_cases same : probed = host <;> simp [millis?, isUnanswered, host?, same]
  · simp [millis?, isUnanswered, host?]

/-- The answered probes of a host are among its events. -/
theorem filterMap_millis?_filter (host : String) (es : List MetricEvent) :
  (es.filter (·.host? = some host)).filterMap (millis? host) = es.filterMap (millis? host)
  := by
  rw [List.filterMap_filter]
  apply List.filterMap_congr
  rintro (⟨elapsed, teams⟩ | elapsed | ⟨probed, millis | reason⟩) _
  · rfl
  · rfl
  · by_cases same : probed = host <;> simp [millis?, host?, same]
  · simp [millis?]

/-- The unanswered probes of a host are among its events. -/
theorem countP_isUnanswered_filter (host : String) (es : List MetricEvent) :
  (es.filter (·.host? = some host)).countP (isUnanswered host) = es.countP (isUnanswered host)
  := by
  rw [List.countP_filter]
  apply List.countP_congr
  rintro (⟨elapsed, teams⟩ | elapsed | ⟨probed, millis | reason⟩) _
  · rfl
  · rfl
  · rfl
  · simp [isUnanswered, host?]

/-- What a text shows for a host is decided by the events of the host. -/
theorem readings_congr {host : String} {es es' : List MetricEvent}
    (same : es'.filter (·.host? = some host) = es.filter (·.host? = some host)) (hs : s.Proper)
    (label : ("remote_host", host) ∈ s.labels) :
  readings (empty.recordAll es').text s = readings (empty.recordAll es).text s
  := by
  have failures : (empty.recordAll es').failures.find? host =
      (empty.recordAll es).failures.find? host := by
    rw [(tallies_recordAll es').failures, (tallies_recordAll es).failures,
      ← countP_isUnanswered_filter, same, countP_isUnanswered_filter]
  have latencies : (empty.recordAll es').latencies.find? host =
      (empty.recordAll es).latencies.find? host := by
    rw [(tallies_recordAll es').latencies, (tallies_recordAll es).latencies,
      ← filterMap_millis?_filter, same, filterMap_millis?_filter]
  rw [readings_of_host _ hs label, readings_of_host _ hs label, failures, latencies]

theorem accounts_recordAll (es : List MetricEvent) :
  Accounts (empty.recordAll es).text es
  where
  outcome outcome := by
    rw [readings_outcome, (tallies_recordAll es).syncs, map_numeral_tally]
  durations := by
    apply showsHistogram describes_syncBounds
      (fun l hl d => Duration.inSeconds_le_round_iff hl d) _ ⟨rfl, by decide⟩
    intro s hs name _
    rw [readings_durations _ hs name, (tallies_recordAll es).durations]
  rebuilds := length_filterMap_elapsed? es
  teams := by
    rw [readings_teams, (tallies_recordAll es).teams]
    cases (es.filterMap teams?).getLast? <;> rfl
  latencies host := by
    apply showsHistogram describes_latencyBounds
      (fun l hl millis => millisInSeconds_le_round_iff hl millis) _
      (.of_label rfl rfl host)
    intro s hs name labels
    rw [readings_latencies _ hs name (labels List.mem_cons_self), (tallies_recordAll es).latencies]
  unanswered host := by
    rw [readings_unanswered, (tallies_recordAll es).failures, map_numeral_tally]
  probes host := length_filterMap_millis? host es

/-- Numbers below `2 ^ 53` are written as they are. -/
theorem numeral_natCast {n : Nat} (few : n < 2 ^ 53) :
  numeral n = String.ofList (Numeral.decimal n)
  := by
  rw [numeral, Binary.ofInt_natCast few.le, Shortest.text_natCast few]

/-- A number below `2 ^ 63` is the same with a sign. -/
theorem toInt_toInt64 {n : UInt64} (few : n.toNat < 2 ^ 63) :
  n.toInt64.toInt = n.toNat
  := by
  rw [← Int64.toInt_toBitVec, UInt64.toBitVec_toInt64, BitVec.toInt_eq_toNat_of_lt]
  · rfl
  · rw [UInt64.toNat_toBitVec]
    omega

/-- The text of the metrics accounts for all events that were recorded.  A host has series of its
own, and numbers below `2 ^ 53` are written as they are. -/
theorem text_accounts (es : List MetricEvent) :
  Accounts (empty.recordAll es).text es ∧
  (∀ (host : String) (es' : List MetricEvent),
    es'.filter (·.host? = some host) = es.filter (·.host? = some host) →
    ∀ s : Series, s.Proper → ("remote_host", host) ∈ s.labels →
      readings (empty.recordAll es').text s = readings (empty.recordAll es).text s) ∧
  (∀ n : Nat, n < 2 ^ 53 → numeral n = String.ofList (Numeral.decimal n)) ∧
  ∀ n : UInt64, n.toNat < 2 ^ 53 →
    numeral n.toInt64.toInt = String.ofList (Numeral.decimal n.toNat)
  := by
  refine ⟨accounts_recordAll es, fun host es' same s hs label => readings_congr same hs label,
    fun n few => numeral_natCast few, fun n few => ?_⟩
  rw [toInt_toInt64 (few.trans (by decide)), numeral_natCast few]

/-- The teams of a rebuild that found more than fit into a signed number are shown as a negative
number, those that do not fit into 53 places are rounded, and an outcome without a rebuild is not
shown at all. -/
theorem text_of_many_teams :
  let text (teams : UInt64) := (empty.recordAll [.syncSucceeded ⟨1, 0⟩ teams]).text
  readings (text 18446744073709551615) teamsSeries = ["-1"] ∧
  readings (text 9007199254740993) teamsSeries = ["9007199254740992"] ∧
  readings (text 18446744073709551615) (outcomeSeries "failure") = []
  := by
  dsimp only
  rw [readings_teams, readings_teams, readings_outcome]
  decide +kernel

end Registry

end MeshOnboard

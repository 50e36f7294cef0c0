import HybridTls.Analytics.Percentile

/-!
# What contributes to a summary

A row of the measurements contributes to one metric of one mode with one value: if it has
this mode, was successful and has a value (`HybridTls.contributions`). All that
`summarize` says about a metric is said about these values, and all that it says about
rows are their numbers (`HybridTls.summarize_eq_ok`).

From this the rest follows: what does not contribute does not matter, nor does the order
(`HybridTls.Untouched`); a comparison has a number in it when there is something to
compare, and to divide by (`HybridTls.ComparisonLaws`). And the entries by metric that
are merged into the entries by mode do not meet them, because no metric has the name of a
mode (`HybridTls.lookup_comparisonDict`).
-/

namespace HybridTls

open Python OrderStatistics

/-! ### The dictionary of the comparison -/

/-- `METRICS`. -/
def Metric.all : List Metric :=
  [.clientTcpUs, .clientHandshakeUs, .serverHandshakeUs, .clientTtfbUs, .clientTotalUs, .bytesSent,
    .bytesReceived]

/-- The name of a metric. -/
def Metric.text : Metric → String
  | .clientTcpUs => "client_tcp_us"
  | .clientHandshakeUs => "client_handshake_us"
  | .serverHandshakeUs => "server_handshake_us"
  | .clientTtfbUs => "client_ttfb_us"
  | .clientTotalUs => "client_total_us"
  | .bytesSent => "bytes_sent"
  | .bytesReceived => "bytes_received"

/-- A value in the dictionary of the comparison: what a mode has, or a metric. -/
inductive ComparisonEntry where
  | mode (compared : Metric → Comparison)
  | metric (c : Comparison)

/-- `output["comparison"]` before the last statement. -/
def comparisonByMode (compared : Mode → Metric → Comparison) : Dict String ComparisonEntry :=
  (Mode.all.filter (· ≠ baselineMode)).foldl
    (fun d mode => d.setItem mode.text (.mode (compared mode))) []

/-- `output["comparison"]`: what the last statement makes of it is an `update` with the
entries of `hybrid`. -/
def comparisonDict (compared : Mode → Metric → Comparison) : Dict String ComparisonEntry :=
  match (comparisonByMode compared).lookup "hybrid" with
  | some (.mode entries) =>
    Metric.all.foldl (fun d metric => d.setItem metric.text (.metric (entries metric)))
      (comparisonByMode compared)
  | _ => comparisonByMode compared

section Dict

variable {compared : Mode → Metric → Comparison}

theorem comparisonDict_eq : comparisonDict compared =
    Metric.all.foldl (fun d metric => d.setItem metric.text (.metric (compared .hybrid metric)))
      (comparisonByMode compared) := by
  have hhybrid : (comparisonByMode compared).lookup "hybrid" =
      some (.mode (compared .hybrid)) := by
    rw [comparisonByMode, Dict.lookup_foldl_setItem]
    rfl
  rw [comparisonDict, hhybrid]

/-- **Both kinds of entries are there**: no metric is named like a mode. -/
theorem lookup_comparisonDict (compared : Mode → Metric → Comparison) :
    (∀ mode, mode ≠ baselineMode →
      (comparisonDict compared).lookup mode.text = some (.mode (compared mode))) ∧
    ∀ metric : Metric,
      (comparisonDict compared).lookup metric.text = some (.metric (compared .hybrid metric)) := by
  rw [comparisonDict_eq]
  constructor
  · intro mode hmode
    rw [Dict.lookup_foldl_setItem, comparisonByMode, Dict.lookup_foldl_setItem]
    cases mode with
    | classical => exact absurd rfl hmode
    | _ => rfl
  · intro metric
    rw [Dict.lookup_foldl_setItem]
    cases metric <;> rfl

end Dict

/-! ### What contributes -/

/-- A row contributes to a metric of a mode. -/
def SampleRow.contributes (mode : Mode) (metric : Metric) (row : SampleRow) : Bool :=
  row.mode = mode.text && row.success && (row.value metric).isSome

/-- **The values of a metric** in the successful rows of a mode, without the nulls. -/
def contributions (rows : List SampleRow) (mode : Mode) (metric : Metric) : List ℚ :=
  ((modeRows rows mode).filter (·.success)).filterMap (·.value metric)

/-- The comparison of a mode with the baseline. -/
def compareModes (modes : Mode → ModeSummary) (mode : Mode) (metric : Metric) : Comparison :=
  compareMedians ((modes baselineMode).metrics metric).p50 ((modes mode).metrics metric).p50

section Contributions

variable {rows rows' : List SampleRow} {mode : Mode} {metric : Metric} {s : Summary}
  {entry : ModeSummary}

/-- They are those of the rows that contribute. -/
theorem contributions_eq :
    contributions rows mode metric =
      (rows.filter (·.contributes mode metric)).filterMap (·.value metric) := by
  rw [contributions, modeRows, List.filterMap_filter, List.filterMap_filter, List.filterMap_filter]
  refine List.filterMap_congr fun row _ => ?_
  cases hvalue : row.value metric <;> cases hsuccess : row.success <;>
    simp [SampleRow.contributes, hvalue, hsuccess]

/-- What is not null of some values. -/
theorem reduceOption_map {α β : Type} (f : α → Option β) (xs : List α) :
    (xs.map f).reduceOption = xs.filterMap f :=
  List.filterMap_map

theorem reduceOption_value :
    (((modeRows rows mode).filter (·.success)).map (·.value metric)).reduceOption =
      contributions rows mode metric :=
  reduceOption_map _ _

end Contributions

/-! ### What is returned -/

/-- The description of a sample, whatever it is. -/
def descriptionOf (values : List ℚ) : Description :=
  if values = [] then ⟨0, none, none, none, none, none, none⟩
  else describeWith values (percentileAt values)

/-- The entry of a mode, from the rows that count and the values they contribute. -/
def modeSummaryOf (rows : List SampleRow) (mode : Mode) : ModeSummary where
  samples := (modeRows rows mode).length
  successes := ((modeRows rows mode).filter (·.success)).length
  failures := (modeRows rows mode).length - ((modeRows rows mode).filter (·.success)).length
  metrics metric := descriptionOf (contributions rows mode metric)

/-- The summary of rows. -/
def summaryOf (rows : List SampleRow) : Summary where
  modes := modeSummaryOf rows
  comparison mode :=
    if mode = baselineMode then none else some (compareModes (modeSummaryOf rows) mode)
  flattened := compareModes (modeSummaryOf rows) .hybrid

section Return

variable {rows rows' : List SampleRow} {mode : Mode} {metric : Metric} {values values' : List ℚ}

theorem describe_eq_descriptionOf (values : List (Option ℚ)) :
    describe values = .ok (descriptionOf values.reduceOption) := by
  rw [descriptionOf]
  split
  next hnil => rw [describe, hnil]; rfl
  next hne => exact describe_eq hne (percentileLaws hne)

theorem summarizeMode_eq (rows : List SampleRow) (mode : Mode) :
    summarizeMode rows mode = .ok (modeSummaryOf rows mode) := by
  have hmetrics : Metric.dict (fun metric =>
      describe (((modeRows rows mode).filter (·.success)).map (·.value metric))) =
        .ok fun metric => descriptionOf (contributions rows mode metric) :=
    Metric.dict_eq_ok_iff.mpr fun metric => by
      rw [describe_eq_descriptionOf, reduceOption_value]
  rw [summarizeMode, hmetrics]
  rfl

/-- **What `summarize` returns**, which is nothing but numbers of rows and descriptions of
what they contribute. -/
theorem summarize_eq (rows : List SampleRow) : summarize rows = .ok (summaryOf rows) := by
  have hmodes : Mode.dict (summarizeMode rows) = .ok (modeSummaryOf rows) :=
    Mode.dict_eq_ok_iff.mpr (summarizeMode_eq rows)
  rw [summarize, hmodes]
  rfl

/-- The order of a sample does not matter. -/
theorem descriptionOf_perm (h : values.Perm values') :
    descriptionOf values = descriptionOf values' := by
  have hnil : values = [] ↔ values' = [] := by
    rw [← List.length_eq_zero_iff, h.length_eq, List.length_eq_zero_iff]
  simp only [descriptionOf, describeWith, hnil, percentileAt_perm h, h.length_eq, h.sum_eq]

/-- Rows that do not contribute do not matter. -/
theorem contributions_perm (h : (rows.filter (·.contributes mode metric)).Perm
    (rows'.filter (·.contributes mode metric))) :
    (contributions rows mode metric).Perm (contributions rows' mode metric) := by
  rw [contributions_eq, contributions_eq]
  exact h.filterMap _

/-- The order of the rows does not matter. -/
theorem summaryOf_perm (h : rows.Perm rows') : summaryOf rows = summaryOf rows' := by
  have hmode : modeSummaryOf rows = modeSummaryOf rows' := funext fun mode => by
    have hrows : (modeRows rows mode).Perm (modeRows rows' mode) := h.filter _
    have hmetrics : ∀ metric, descriptionOf (contributions rows mode metric) =
        descriptionOf (contributions rows' mode metric) := fun metric =>
      descriptionOf_perm (contributions_perm (h.filter _))
    simp only [modeSummaryOf, hrows.length_eq, (hrows.filter _).length_eq, hmetrics]
  simp only [summaryOf, hmode]

/-- The median of a sample that is not empty. -/
theorem descriptionOf_p50 (hne : values ≠ []) :
    ∃ m, (descriptionOf values).p50 = some m ∧ IsMedian values m := by
  rw [descriptionOf, if_neg hne]
  exact ⟨_, rfl, (percentileLaws hne).median⟩

theorem descriptionOf_p50_eq_none_iff : (descriptionOf values).p50 = none ↔ values = [] := by
  by_cases hnil : values = []
  · simp [descriptionOf, hnil]
  · obtain ⟨m, hm, -⟩ := descriptionOf_p50 hnil
    simp [hm, hnil]

end Return

/-! ### The laws -/

/-- **What is asked of a comparison** of a mode with the baseline, given what they
contribute: there is a difference if both contribute, a percentage if one can divide by the
baseline's median, and they belong together. -/
structure ComparisonLaws (baseline mode : List ℚ) (c : Comparison) : Prop where
  delta : c.delta.isSome ↔ mode ≠ [] ∧ baseline ≠ []
  percent : c.percent.isSome ↔ c.delta.isSome ∧ ∀ m, IsMedian baseline m → m ≠ 0
  together : ∀ percent ∈ c.percent, ∃ m, IsMedian baseline m ∧ c.delta = some (percent * m / 100)

/-- **What is asked of a summary.** -/
structure SummaryLaws (rows : List SampleRow) (s : Summary) : Prop where
  perm : ∀ rows', rows.Perm rows' → summarize rows' = .ok s
  counts : ∀ mode, ((s.modes mode).samples : ℤ) = (s.modes mode).successes + (s.modes mode).failures
  total : (Mode.all.map fun mode => (s.modes mode).samples).sum = rows.length
  described : ∀ mode metric,
    describe ((contributions rows mode metric).map some) = .ok ((s.modes mode).metrics metric)
  /-- Rows that do not contribute to a metric of a mode do not change its description. -/
  untouched : ∀ rows' s', summarize rows' = .ok s' → ∀ mode metric,
    (rows.filter (·.contributes mode metric)).Perm (rows'.filter (·.contributes mode metric)) →
      (s'.modes mode).metrics metric = (s.modes mode).metrics metric
  compared : ∀ mode, mode ≠ baselineMode → ∃ entries, s.comparison mode = some entries ∧
    ∀ metric, ComparisonLaws (contributions rows baselineMode metric)
      (contributions rows mode metric) (entries metric)
  /-- In the dictionary, the entries by metric are those of the hybrid mode, and the entries
  by mode are still there. -/
  merged : (∀ mode entries, s.comparison mode = some entries →
      (comparisonDict (compareModes s.modes)).lookup mode.text = some (.mode entries)) ∧
    ∀ entries, s.comparison .hybrid = some entries → s.flattened = entries ∧
      ∀ metric : Metric, (comparisonDict (compareModes s.modes)).lookup metric.text =
        some (.metric (entries metric))

section Laws

variable {rows : List SampleRow} {baseline mode : List ℚ}

theorem isMedian_unique {values : List ℚ} {m m' : ℚ} (h : IsMedian values m)
    (h' : IsMedian values m') : m = m' := by
  unfold IsMedian at h h'
  split at h
  next hodd =>
    rw [if_pos hodd] at h'
    exact h.unique h'
  next heven =>
    rw [if_neg heven] at h'
    obtain ⟨a, b, ha, hb, rfl⟩ := h
    obtain ⟨a', b', ha', hb', rfl⟩ := h'
    rw [ha.unique ha', hb.unique hb']

theorem comparisonLaws (baseline mode : List ℚ) : ComparisonLaws baseline mode
    (compareMedians (descriptionOf baseline).p50 (descriptionOf mode).p50) := by
  by_cases hbaseline : baseline = []
  · rw [descriptionOf_p50_eq_none_iff.mpr hbaseline]
    exact ⟨by simp [compareMedians, hbaseline], by simp [compareMedians], by simp [compareMedians]⟩
  by_cases hmode : mode = []
  · have hnone : compareMedians (descriptionOf baseline).p50 (descriptionOf mode).p50 =
        ⟨none, none⟩ := by
      rw [descriptionOf_p50_eq_none_iff.mpr hmode]
      cases (descriptionOf baseline).p50 <;> rfl
    rw [hnone]
    exact ⟨by simp [hmode], by simp, by simp⟩
  obtain ⟨b, hb, hmedian⟩ := descriptionOf_p50 hbaseline
  obtain ⟨m, hm, -⟩ := descriptionOf_p50 hmode
  have hall : (∀ m, IsMedian baseline m → m ≠ 0) ↔ b ≠ 0 :=
    ⟨fun h => h b hmedian, fun h m' hm' => isMedian_unique hmedian hm' ▸ h⟩
  rw [hb, hm]
  refine ⟨by simp [compareMedians, hbaseline, hmode], ?_, ?_⟩
  · rw [hall]
    by_cases hzero : b = 0
    · simp [compareMedians, hzero]
    · simp [compareMedians, hzero]
  · intro percent hpercent
    simp only [compareMedians, Option.mem_def, Option.ite_none_right_eq_some, Option.some.injEq]
      at hpercent ⊢
    obtain ⟨hzero, rfl⟩ := hpercent
    exact ⟨b, hmedian, by field_simp⟩

theorem summaryLaws (hmodes : ∀ row ∈ rows, ∃ mode : Mode, row.mode = mode.text) :
    SummaryLaws rows (summaryOf rows) where
  perm rows' h := (summarize_eq rows').trans (congrArg _ (summaryOf_perm h).symm)
  counts mode := by
    simp only [summaryOf, modeSummaryOf]
    omega
  total := sum_length_modeRows hmodes
  described mode metric := by
    rw [describe_eq_descriptionOf, reduceOption_map]
    simp [summaryOf, modeSummaryOf]
  untouched rows' s' hs' mode metric h := by
    rw [summarize_eq, Except.ok.injEq] at hs'
    rw [← hs']
    exact (descriptionOf_perm (contributions_perm h)).symm
  compared mode hmode := ⟨_, if_neg hmode, fun metric => comparisonLaws _ _⟩
  merged := by
    obtain ⟨hbyMode, hbyMetric⟩ := lookup_comparisonDict (compareModes (modeSummaryOf rows))
    constructor
    · intro mode entries h
      simp only [summaryOf, Option.ite_none_left_eq_some, Option.some.injEq] at h
      obtain ⟨hmode, rfl⟩ := h
      exact hbyMode mode hmode
    · intro entries h
      obtain rfl : compareModes (modeSummaryOf rows) .hybrid = entries := Option.some.inj h
      exact ⟨rfl, hbyMetric⟩

/-- **A summary is about what contributes to it, and about all of it.** -/
theorem summarize_uncontaminated (hmodes : ∀ row ∈ rows, ∃ mode : Mode, row.mode = mode.text) :
    ∃ s, summarize rows = .ok s ∧ SummaryLaws rows s :=
  ⟨_, summarize_eq rows, summaryLaws hmodes⟩

end Laws

/-- A row with two metrics. -/
def SampleRow.timed (mode : Mode) (client server : ℚ) : SampleRow where
  mode := mode.text
  success := true
  value
    | .clientHandshakeUs => some client
    | .serverHandshakeUs => some server
    | _ => none

/-- The rows of the repository's test. -/
def testRows : List SampleRow :=
  [.timed .classical 100 80, .timed .classical 200 90, .timed .hybrid 300 180,
    .timed .hybrid 400 190]

theorem summarize_uncontaminated_test :
    ∃ s, summarize testRows = .ok s ∧ SummaryLaws testRows s := by
  refine summarize_uncontaminated fun row hrow => ?_
  simp only [testRows, List.mem_cons, List.not_mem_nil, or_false] at hrow
  rcases hrow with rfl | rfl | rfl | rfl
  · exact ⟨.classical, rfl⟩
  · exact ⟨.classical, rfl⟩
  · exact ⟨.hybrid, rfl⟩
  · exact ⟨.hybrid, rfl⟩

example : ((summaryOf testRows).flattened .clientHandshakeUs).delta = some 200 := by
  decide +kernel

end HybridTls

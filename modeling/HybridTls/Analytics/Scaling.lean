import HybridTls.Analytics.Contributions

/-!
# Units and offsets

What becomes of a summary when the values of a metric are measured in another unit, or
with an offset in one mode. Both are affine maps that keep the order, and such a map goes
through everything `describe` does: sorting (`HybridTls.sorted_map`), interpolating
(`OrderStatistics.interpolate_affine`) and averaging
(`OrderStatistics.mean_map_affine`). So there is one lemma about descriptions
(`HybridTls.descriptionOf_affine`), and what is left is to see which rows contribute to
which entries (`HybridTls.contributions_modify`).
-/

namespace HybridTls

open Python OrderStatistics

/-! ### Descriptions -/

/-- A description in other terms; the number of values stays. -/
def Description.map (f : ℚ → ℚ) (d : Description) : Description where
  count := d.count
  mean := d.mean.map f
  p50 := d.p50.map f
  p95 := d.p95.map f
  p99 := d.p99.map f
  min := d.min.map f
  max := d.max.map f

/-- The entry of a mode with the description of a metric in other terms. -/
def ModeSummary.mapMetric (f : ℚ → ℚ) (metric : Metric) (e : ModeSummary) : ModeSummary :=
  { e with metrics := fun m => if m = metric then (e.metrics m).map f else e.metrics m }

section Affine

variable {values : List ℚ} {c : ℚ}

theorem percentileAt_affine (hc : 0 < c) (hne : values ≠ []) (d : ℚ) {p : ℚ} (h₀ : 0 ≤ p)
    (h₁ : p ≤ 100) :
    percentileAt (values.map fun x => c * x + d) p = c * percentileAt values p + d := by
  have hsorted : sorted (values.map fun x => c * x + d) =
      (sorted values).map fun x => c * x + d :=
    sorted_map (fun x y => by rw [add_le_add_iff_right, mul_le_mul_iff_right₀ hc]) values
  have hlen : 1 ≤ (sorted values).length := List.length_pos_iff.mpr (sorted_ne_nil hne)
  obtain ⟨hl, hl', hu, hu'⟩ := percentilePosition_mem hlen h₀ h₁
  rw [length_sorted] at hl hl' hu hu'
  have hpos : position (values.map fun x => c * x + d) p = position values p := by
    rw [position, position, List.length_map]
  rw [percentileAt, hpos, hsorted, percentileAt, ← interpolate_affine]
  exact interpolate_congr (seq_map hl (by rwa [length_sorted]))
    (seq_map hu (by rwa [length_sorted]))

/-- **An affine map of the values maps their description.** -/
theorem descriptionOf_affine (hc : 0 < c) (d : ℚ) (values : List ℚ) :
    descriptionOf (values.map fun x => c * x + d) =
      (descriptionOf values).map fun x => c * x + d := by
  by_cases hnil : values = []
  · rw [hnil]
    rfl
  have hnil' : values.map (fun x => c * x + d) ≠ [] := by simpa using hnil
  have hat : ∀ p : ℚ, 0 ≤ p → p ≤ 100 →
      percentileAt (values.map fun x => c * x + d) p = c * percentileAt values p + d :=
    fun p h₀ h₁ => percentileAt_affine hc hnil d h₀ h₁
  rw [descriptionOf, descriptionOf, if_neg hnil, if_neg hnil']
  simp only [describeWith, Description.map, hat 0 (by norm_num) (by norm_num),
    hat 50 (by norm_num) (by norm_num), hat 95 (by norm_num) (by norm_num),
    hat 99 (by norm_num) (by norm_num), hat 100 (by norm_num) (by norm_num), List.length_map,
    Option.map_some]
  rw [← mean_map_affine hnil]

end Affine

/-! ### Rows -/

/-- A row that satisfies a condition, with the values of a metric mapped. -/
def SampleRow.modify (p : SampleRow → Bool) (f : ℚ → ℚ) (metric : Metric) (row : SampleRow) :
    SampleRow :=
  { row with value := fun m => if m = metric ∧ p row then (row.value m).map f else row.value m }

/-- All the rows that satisfy it. -/
def modifyRows (p : SampleRow → Bool) (f : ℚ → ℚ) (metric : Metric) (rows : List SampleRow) :
    List SampleRow :=
  rows.map (·.modify p f metric)

/-- The values of a metric are multiplied, in every row. -/
def scaleRows (c : ℚ) (metric : Metric) (rows : List SampleRow) : List SampleRow :=
  modifyRows (fun _ => true) (fun x => c * x) metric rows

/-- Something is added to the values of a metric, in the successful rows of a mode. -/
def shiftRows (d : ℚ) (mode : Mode) (metric : Metric) (rows : List SampleRow) : List SampleRow :=
  modifyRows (fun row => row.mode = mode.text && row.success) (fun x => x + d) metric rows

section Modify

variable {p : SampleRow → Bool} {f : ℚ → ℚ} {rows : List SampleRow} {mode mode' : Mode}
  {metric metric' : Metric}

/-- The rows that are looked at do not change, only what they contribute. -/
theorem contributions_modifyRows :
    contributions (modifyRows p f metric rows) mode metric' =
      ((modeRows rows mode).filter (·.success)).filterMap fun row =>
        (row.modify p f metric).value metric' := by
  simp only [contributions, modeRows, modifyRows, List.filter_map, List.filterMap_map,
    Function.comp_def, SampleRow.modify]

/-- A row that is looked at has the mode and was successful. -/
theorem mem_successful {row : SampleRow} (h : row ∈ (modeRows rows mode).filter (·.success)) :
    row.mode = mode.text ∧ row.success := by
  simp only [modeRows, List.mem_filter, decide_eq_true_eq] at h
  exact ⟨h.1.2, h.2⟩

/-- **The values of the metric are mapped** in a mode whose successful rows satisfy the
condition. -/
theorem contributions_modify (hp : ∀ row, row.mode = mode.text → row.success → p row) :
    contributions (modifyRows p f metric rows) mode metric =
      (contributions rows mode metric).map f := by
  rw [contributions_modifyRows, contributions, List.map_filterMap]
  refine List.filterMap_congr fun row hrow => ?_
  obtain ⟨hmode, hsuccess⟩ := mem_successful hrow
  exact if_pos ⟨rfl, hp row hmode hsuccess⟩

/-- The values of another metric do not change, nor do any where none of these rows
satisfies it. -/
theorem contributions_modify_of_not
    (hp : metric' ≠ metric ∨ ∀ row, row.mode = mode.text → row.success → p row = false) :
    contributions (modifyRows p f metric rows) mode metric' = contributions rows mode metric' := by
  rw [contributions_modifyRows, contributions]
  refine List.filterMap_congr fun row hrow => if_neg ?_
  obtain ⟨hmode, hsuccess⟩ := mem_successful hrow
  rintro ⟨hmetric, hrow⟩
  rcases hp with hne | hp
  · exact hne hmetric
  · rw [hp row hmode hsuccess] at hrow
    cases hrow

/-- The numbers of rows do not change. -/
theorem length_modeRows_modify (p : SampleRow → Bool) (f : ℚ → ℚ) (rows : List SampleRow)
    (mode : Mode) (metric : Metric) :
    (modeRows (modifyRows p f metric rows) mode).length = (modeRows rows mode).length ∧
      ((modeRows (modifyRows p f metric rows) mode).filter (·.success)).length =
        ((modeRows rows mode).filter (·.success)).length := by
  simp only [modeRows, modifyRows, List.filter_map, List.length_map, Function.comp_def,
    SampleRow.modify]
  exact ⟨trivial, trivial⟩

/-- **The entry of a mode whose values are mapped**: only the description of the metric is
another. -/
theorem modeSummaryOf_modify (hp : ∀ row, row.mode = mode.text → row.success → p row)
    (hf : ∀ values, descriptionOf (values.map f) = (descriptionOf values).map f) :
    modeSummaryOf (modifyRows p f metric rows) mode =
      (modeSummaryOf rows mode).mapMetric f metric := by
  obtain ⟨hsamples, hsuccesses⟩ := length_modeRows_modify p f rows mode metric
  have hmetrics : (fun m => descriptionOf (contributions (modifyRows p f metric rows) mode m)) =
      ((modeSummaryOf rows mode).mapMetric f metric).metrics := by
    ext1 m
    by_cases hm : m = metric
    · rw [hm, contributions_modify hp, hf]
      exact (if_pos rfl).symm
    · rw [contributions_modify_of_not (Or.inl hm)]
      exact (if_neg hm).symm
  simp only [modeSummaryOf, hsamples, hsuccesses]
  rw [hmetrics]
  rfl

/-- The entry of another mode. -/
theorem modeSummaryOf_modify_of_not
    (hp : ∀ row, row.mode = mode.text → row.success → p row = false) :
    modeSummaryOf (modifyRows p f metric rows) mode = modeSummaryOf rows mode := by
  obtain ⟨hsamples, hsuccesses⟩ := length_modeRows_modify p f rows mode metric
  simp only [modeSummaryOf, hsamples, hsuccesses, contributions_modify_of_not (Or.inr hp)]

end Modify

/-! ### The laws -/

/-- A comparison in another unit: the percentage stays. -/
def Comparison.scale (c : ℚ) (e : Comparison) : Comparison :=
  { e with delta := e.delta.map fun x => c * x }

/-- **What is asked of a summary in another unit.** -/
structure ScaledBy (c : ℚ) (metric : Metric) (s s' : Summary) : Prop where
  modes : ∀ mode, s'.modes mode = (s.modes mode).mapMetric (fun x => c * x) metric
  comparison : ∀ mode, s'.comparison mode = (s.comparison mode).map fun entries =>
    Function.update entries metric ((entries metric).scale c)
  flattened : s'.flattened = Function.update s.flattened metric ((s.flattened metric).scale c)

/-- **What is asked of a summary with an offset** in a mode: nothing else is another, but
the percentage that belongs to the difference. -/
structure ShiftedBy (d : ℚ) (mode : Mode) (metric : Metric) (s s' : Summary) : Prop where
  shifted : s'.modes mode = (s.modes mode).mapMetric (fun x => x + d) metric
  others : ∀ mode', mode' ≠ mode →
    s'.modes mode' = s.modes mode' ∧ s'.comparison mode' = s.comparison mode'
  comparison : ∃ entries entries', s.comparison mode = some entries ∧
    s'.comparison mode = some entries' ∧ (∀ m, m ≠ metric → entries' m = entries m) ∧
    (entries' metric).delta = (entries metric).delta.map (fun x => x + d) ∧
    s'.flattened = if mode = .hybrid then entries' else s.flattened

section Laws

variable {rows : List SampleRow} {c d : ℚ} {mode : Mode} {metric : Metric}

theorem compareMedians_scale (hc : 0 < c) (baseline mode : Option ℚ) :
    compareMedians (baseline.map fun x => c * x) (mode.map fun x => c * x) =
      (compareMedians baseline mode).scale c := by
  cases baseline with
  | none => rfl
  | some b =>
    cases mode with
    | none => rfl
    | some m =>
      have hdelta : c * m - c * b = c * (m - b) := by ring
      by_cases hb : b = 0
      · simp [compareMedians, Comparison.scale, hb]
      · have hpercent : c * (m - b) / (c * b) = (m - b) / b := mul_div_mul_left _ _ hc.ne'
        simp [compareMedians, Comparison.scale, hb, hc.ne', hdelta, hpercent]

theorem delta_compareMedians_shift (baseline mode : Option ℚ) :
    (compareMedians baseline (mode.map fun x => x + d)).delta =
      (compareMedians baseline mode).delta.map fun x => x + d := by
  cases baseline with
  | none => rfl
  | some b =>
    cases mode with
    | none => rfl
    | some m =>
      simp only [compareMedians, Option.map_some, Option.some.injEq]
      ring

theorem scaledBy (hc : 0 < c) :
    ScaledBy c metric (summaryOf rows) (summaryOf (scaleRows c metric rows)) := by
  have hdescription : ∀ values, descriptionOf (values.map fun x => c * x) =
      (descriptionOf values).map fun x => c * x := fun values => by
    simpa only [add_zero] using descriptionOf_affine hc 0 values
  have hmodes : ∀ mode, modeSummaryOf (scaleRows c metric rows) mode =
      (modeSummaryOf rows mode).mapMetric (fun x => c * x) metric := fun mode =>
    modeSummaryOf_modify (fun _ _ _ => rfl) hdescription
  have hcompare : ∀ mode, compareModes (modeSummaryOf (scaleRows c metric rows)) mode =
      Function.update (compareModes (modeSummaryOf rows) mode) metric
        ((compareModes (modeSummaryOf rows) mode metric).scale c) := fun mode => by
    ext1 m
    rw [compareModes, hmodes, hmodes]
    by_cases hm : m = metric
    · rw [hm, Function.update_self, ModeSummary.mapMetric, ModeSummary.mapMetric]
      simp only [if_true]
      exact compareMedians_scale hc _ _
    · rw [Function.update_of_ne hm, ModeSummary.mapMetric, ModeSummary.mapMetric]
      simp only [if_neg hm]
      rfl
  exact {
    modes := hmodes
    comparison := fun mode => by
      simp only [summaryOf, hcompare]
      split <;> rfl
    flattened := hcompare .hybrid }

theorem shiftedBy (hmode : mode ≠ baselineMode) :
    ShiftedBy d mode metric (summaryOf rows) (summaryOf (shiftRows d mode metric rows)) := by
  have hdescription : ∀ values, descriptionOf (values.map fun x => x + d) =
      (descriptionOf values).map fun x => x + d := fun values => by
    simpa only [one_mul] using descriptionOf_affine one_pos d values
  have hshifted : modeSummaryOf (shiftRows d mode metric rows) mode =
      (modeSummaryOf rows mode).mapMetric (fun x => x + d) metric :=
    modeSummaryOf_modify (fun row hrow hsuccess => by simp [hrow, hsuccess]) hdescription
  have hother : ∀ mode', mode' ≠ mode →
      modeSummaryOf (shiftRows d mode metric rows) mode' = modeSummaryOf rows mode' :=
    fun mode' hne => modeSummaryOf_modify_of_not fun row hrow _ => by
      have htext : mode'.text ≠ mode.text := by
        revert hne
        cases mode' <;> cases mode <;> decide
      simp [hrow, htext]
  have hbaseline := hother baselineMode (Ne.symm hmode)
  have hcompare : ∀ mode', mode' ≠ mode →
      compareModes (modeSummaryOf (shiftRows d mode metric rows)) mode' =
        compareModes (modeSummaryOf rows) mode' := fun mode' hne => by
    ext1 m
    rw [compareModes, hbaseline, hother mode' hne, compareModes]
  refine ⟨hshifted, fun mode' hne => ⟨hother mode' hne, ?_⟩, _, _, if_neg hmode, if_neg hmode,
    fun m hm => ?_, ?_, ?_⟩
  · simp only [summaryOf, hcompare mode' hne]
  · simp only [compareModes, hbaseline, hshifted, ModeSummary.mapMetric, if_neg hm]
  · simp only [compareModes, hbaseline, hshifted, ModeSummary.mapMetric, if_true]
    exact delta_compareMedians_shift _ _
  · split
    next hhybrid => rw [hhybrid]; rfl
    next hne => exact hcompare .hybrid (Ne.symm hne)

/-- **Comparisons do not depend on the unit, and follow an offset.** -/
theorem comparison_equivariant (rows : List SampleRow) (metric : Metric) :
    (∀ c : ℚ, 0 < c → ∃ s s', summarize rows = .ok s ∧
      summarize (scaleRows c metric rows) = .ok s' ∧ ScaledBy c metric s s') ∧
    ∀ (d : ℚ) (mode : Mode), mode ≠ baselineMode → ∃ s s', summarize rows = .ok s ∧
      summarize (shiftRows d mode metric rows) = .ok s' ∧ ShiftedBy d mode metric s s' :=
  ⟨fun _ hc => ⟨_, _, summarize_eq _, summarize_eq _, scaledBy hc⟩,
    fun _ _ hmode => ⟨_, _, summarize_eq _, summarize_eq _, shiftedBy hmode⟩⟩

end Laws

/-- Milliseconds instead of microseconds, and half a second more. -/
theorem comparison_equivariant_test :
    (∃ s s', summarize testRows = .ok s ∧
      summarize (scaleRows (1 / 1000) .clientHandshakeUs testRows) = .ok s' ∧
        ScaledBy (1 / 1000) .clientHandshakeUs s s') ∧
    ∃ s s', summarize testRows = .ok s ∧
      summarize (shiftRows 500000 .hybrid .clientHandshakeUs testRows) = .ok s' ∧
        ShiftedBy 500000 .hybrid .clientHandshakeUs s s' :=
  ⟨(comparison_equivariant testRows .clientHandshakeUs).1 _ (by norm_num),
    (comparison_equivariant testRows .clientHandshakeUs).2 _ _ (by decide)⟩

end HybridTls

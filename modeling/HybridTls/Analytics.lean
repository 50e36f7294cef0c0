import HybridTls.Lib.Python
import HybridTls.Store.Queries
import Mathlib.Algebra.BigOperators.Group.List.Basic
import Mathlib.Data.Rat.Floor

/-!
# The statistics of the dashboard

`percentile`, `describe` and `summarize`, in exact arithmetic: a measured value is
a rational number.

A function that indexes a list may raise, and so may what calls it. The
percentiles that `describe` asks for lie between 0 and 100, and there
`HybridTls.percentile` finds every index it computes in the list
(`HybridTls.percentile_returns`); so `HybridTls.summarize` returns, whatever the
rows, and its counts are those of the rows (`HybridTls.summarize_returns`).
-/

namespace HybridTls

open Python

/-! ### Rows -/

/-- `METRICS`. -/
inductive Metric where
  | clientTcpUs
  | clientHandshakeUs
  | serverHandshakeUs
  | clientTtfbUs
  | clientTotalUs
  | bytesSent
  | bytesReceived
  deriving DecidableEq, Repr

/-- What `summarize` reads of a row. -/
structure SampleRow where
  mode : String
  success : Bool
  value : Metric → Option ℚ

/-- A metric of a stored row. -/
def MeasurementRow.metric (m : MeasurementRow) : Metric → Option ℤ
  | .clientTcpUs => m.clientTcpUs
  | .clientHandshakeUs => m.clientHandshakeUs
  | .serverHandshakeUs => m.serverHandshakeUs
  | .clientTtfbUs => m.clientTtfbUs
  | .clientTotalUs => m.clientTotalUs
  | .bytesSent => m.bytesSent
  | .bytesReceived => m.bytesReceived

/-- What `summarize` reads of a stored row. -/
def MeasurementRow.sample (m : MeasurementRow) : SampleRow where
  mode := m.mode
  success := m.success ≠ 0
  value metric := (m.metric metric).map fun n => (n : ℚ)

/-- `MODES`. -/
def Mode.all : List Mode := [.classical, .hybrid, .hybridP256]

/-! ### Dictionaries over an enumeration -/

/-- `{metric: f(metric) for metric in METRICS}`. -/
def Metric.dict {α : Type} (f : Metric → Py α) : Py (Metric → α) := do
  let clientTcpUs ← f .clientTcpUs
  let clientHandshakeUs ← f .clientHandshakeUs
  let serverHandshakeUs ← f .serverHandshakeUs
  let clientTtfbUs ← f .clientTtfbUs
  let clientTotalUs ← f .clientTotalUs
  let bytesSent ← f .bytesSent
  let bytesReceived ← f .bytesReceived
  return fun
    | .clientTcpUs => clientTcpUs
    | .clientHandshakeUs => clientHandshakeUs
    | .serverHandshakeUs => serverHandshakeUs
    | .clientTtfbUs => clientTtfbUs
    | .clientTotalUs => clientTotalUs
    | .bytesSent => bytesSent
    | .bytesReceived => bytesReceived

/-- A dictionary with an entry for each of `MODES`. -/
def Mode.dict {α : Type} (f : Mode → Py α) : Py (Mode → α) := do
  let classical ← f .classical
  let hybrid ← f .hybrid
  let hybridP256 ← f .hybridP256
  return fun
    | .classical => classical
    | .hybrid => hybrid
    | .hybridP256 => hybridP256

section Dict

variable {α : Type}

theorem Metric.dict_eq_ok_iff {f : Metric → Py α} {g : Metric → α} :
    Metric.dict f = .ok g ↔ ∀ metric, f metric = .ok (g metric) := by
  simp only [Metric.dict, bind_eq_ok, pure_eq_ok, Except.ok.injEq]
  constructor
  · rintro ⟨_, h₁, _, h₂, _, h₃, _, h₄, _, h₅, _, h₆, _, h₇, rfl⟩ (_ | _)
    all_goals assumption
  · intro h
    exact ⟨_, h _, _, h _, _, h _, _, h _, _, h _, _, h _, _, h _, funext fun metric => by
      cases metric <;> rfl⟩

theorem Mode.dict_eq_ok_iff {f : Mode → Py α} {g : Mode → α} :
    Mode.dict f = .ok g ↔ ∀ mode, f mode = .ok (g mode) := by
  simp only [Mode.dict, bind_eq_ok, pure_eq_ok, Except.ok.injEq]
  constructor
  · rintro ⟨_, h₁, _, h₂, _, h₃, rfl⟩ (_ | _)
    all_goals assumption
  · intro h
    exact ⟨_, h _, _, h _, _, h _, funext fun mode => by cases mode <;> rfl⟩

end Dict

/-! ### Percentiles -/

/-- `sorted`. -/
def sorted (values : List ℚ) : List ℚ := values.insertionSort (· ≤ ·)

@[simp] theorem length_sorted (values : List ℚ) : (sorted values).length = values.length :=
  List.length_insertionSort _ _

/-- The `position` of a percentile in a sorted list of a length. -/
def percentilePosition (length : ℕ) (percentileValue : ℚ) : ℚ :=
  (length - 1 : ℚ) * percentileValue / 100

/-- `percentile`. -/
def percentile (values : List ℚ) (percentileValue : ℚ) : Py (Option ℚ) :=
  if values = [] then return none
  else
    let ordered := sorted values
    if ordered.length = 1 then return some (← getItem ordered 0)
    else
      let position := percentilePosition ordered.length percentileValue
      let lower := ⌊position⌋
      let upper := ⌈position⌉
      if lower = upper then return some (← getItem ordered lower)
      else
        let weight := position - lower
        return some ((← getItem ordered lower) * (1 - weight) +
          (← getItem ordered upper) * weight)

/-- The position of a percentile between 0 and 100 is that of an element, or lies
between two. -/
theorem percentilePosition_mem {length : ℕ} {p : ℚ} (hlen : 1 ≤ length) (h₀ : 0 ≤ p)
    (h₁ : p ≤ 100) :
    0 ≤ ⌊percentilePosition length p⌋ ∧ ⌊percentilePosition length p⌋ < length ∧
      0 ≤ ⌈percentilePosition length p⌉ ∧ ⌈percentilePosition length p⌉ < length := by
  have hlen' : (1 : ℚ) ≤ length := by exact_mod_cast hlen
  have hpos : 0 ≤ percentilePosition length p :=
    div_nonneg (mul_nonneg (by linarith) h₀) (by norm_num)
  have hle : percentilePosition length p ≤ ((length - 1 : ℤ) : ℚ) := by
    have hmul : (length - 1 : ℚ) * p ≤ (length - 1 : ℚ) * 100 :=
      mul_le_mul_of_nonneg_left h₁ (by linarith)
    push_cast
    rw [percentilePosition, div_le_iff₀ (by norm_num)]
    exact hmul
  have hceil : ⌈percentilePosition length p⌉ ≤ length - 1 := Int.ceil_le.mpr hle
  have hfloor := Int.floor_le_ceil (percentilePosition length p)
  have hfloor₀ : 0 ≤ ⌊percentilePosition length p⌋ := Int.floor_nonneg.mpr hpos
  omega

/-- **A percentile between 0 and 100 does not raise**, and is null only of an empty
list. -/
theorem percentile_returns {values : List ℚ} {p : ℚ} (h₀ : 0 ≤ p) (h₁ : p ≤ 100) :
    ∃ v, percentile values p = .ok v ∧ (v = none ↔ values = []) := by
  unfold percentile
  split
  next hnil => exact ⟨none, rfl, by simp [hnil]⟩
  next hne =>
    have hlen : 1 ≤ (sorted values).length := by
      rw [length_sorted]
      exact List.length_pos_iff.mpr hne
    obtain ⟨hl, hl', hu, hu'⟩ := percentilePosition_mem hlen h₀ h₁
    have hzero : (0 : ℤ) < (sorted values).length := by omega
    simp only [getItem_eq_ok hl hl', getItem_eq_ok hu hu', getItem_eq_ok (Int.le_refl 0) hzero]
    split
    · exact ⟨_, rfl, by simp [hne]⟩
    · split
      · exact ⟨_, rfl, by simp [hne]⟩
      · exact ⟨_, rfl, by simp [hne]⟩

/-! ### Descriptions -/

/-- The description of a metric. -/
structure Description where
  count : ℕ
  mean : Option ℚ
  p50 : Option ℚ
  p95 : Option ℚ
  p99 : Option ℚ
  min : Option ℚ
  max : Option ℚ
  deriving DecidableEq, Repr

/-- `describe`. -/
def describe (values : List (Option ℚ)) : Py Description :=
  match values.reduceOption with
  | [] => return ⟨0, none, none, none, none, none, none⟩
  | v :: clean => do
    return {
      count := (v :: clean).length
      mean := some ((v :: clean).sum / (v :: clean).length)
      p50 := ← percentile (v :: clean) 50
      p95 := ← percentile (v :: clean) 95
      p99 := ← percentile (v :: clean) 99
      min := some (clean.foldl min v)
      max := some (clean.foldl max v) }

theorem describe_returns (values : List (Option ℚ)) : ∃ d, describe values = .ok d := by
  unfold describe
  split
  · exact ⟨_, rfl⟩
  next v clean _ =>
    have hreturns : ∀ p : ℚ, 0 ≤ p → p ≤ 100 → ∃ a, percentile (v :: clean) p = .ok a :=
      fun p h₀ h₁ => (percentile_returns h₀ h₁).imp fun _ h => h.1
    obtain ⟨p50, h50⟩ := hreturns 50 (by norm_num) (by norm_num)
    obtain ⟨p95, h95⟩ := hreturns 95 (by norm_num) (by norm_num)
    obtain ⟨p99, h99⟩ := hreturns 99 (by norm_num) (by norm_num)
    rw [h50, h95, h99]
    exact ⟨_, rfl⟩

/-! ### Summaries -/

/-- The entry of a mode. -/
structure ModeSummary where
  samples : ℕ
  successes : ℕ
  failures : ℤ
  metrics : Metric → Description

/-- What a mode's median is compared by to that of the baseline. -/
structure Comparison where
  delta : Option ℚ
  percent : Option ℚ
  deriving DecidableEq, Repr

/-- What `summarize` returns. -/
structure Summary where
  modes : Mode → ModeSummary
  /-- The entries of `comparison` under the modes: there is none for the baseline. -/
  comparison : Mode → Option (Metric → Comparison)
  /-- The entries of `comparison` under the metrics. -/
  flattened : Metric → Comparison

/-- `BASELINE_MODE`. -/
def baselineMode : Mode := .classical

/-- The rows of a mode. -/
def modeRows (rows : List SampleRow) (mode : Mode) : List SampleRow :=
  rows.filter fun row => row.mode = mode.text

/-- The entry of a mode. -/
def summarizeMode (rows : List SampleRow) (mode : Mode) : Py ModeSummary := do
  let successful := (modeRows rows mode).filter (·.success)
  return {
    samples := (modeRows rows mode).length
    successes := successful.length
    failures := (modeRows rows mode).length - successful.length
    metrics := ← Metric.dict fun metric => describe (successful.map (·.value metric)) }

/-- Compare the medians of a metric. -/
def compareMedians (baselineP50 modeP50 : Option ℚ) : Comparison :=
  match baselineP50, modeP50 with
  | some baseline, some mode =>
    let delta := mode - baseline
    { delta := some delta
      percent := if baseline ≠ 0 then some (delta / baseline * 100) else none }
  | _, _ => ⟨none, none⟩

/-- `summarize`. -/
def summarize (rows : List SampleRow) : Py Summary := do
  let modes ← Mode.dict (summarizeMode rows)
  let compared (mode : Mode) (metric : Metric) : Comparison :=
    compareMedians ((modes baselineMode).metrics metric).p50 ((modes mode).metrics metric).p50
  return {
    modes
    comparison := fun mode => if mode = baselineMode then none else some (compared mode)
    flattened := compared .hybrid }

section Count

variable {rows : List SampleRow}

theorem modeRows_filter (p : SampleRow → Bool) (mode : Mode) :
    (modeRows rows mode).filter p = modeRows (rows.filter p) mode := by
  rw [modeRows, modeRows, List.filter_filter, List.filter_filter]
  exact List.filter_congr fun row _ => Bool.and_comm _ _

/-- **No row is missing from the modes or counted twice**, as long as each has one of
the modes. -/
theorem sum_length_modeRows (h : ∀ row ∈ rows, ∃ mode : Mode, row.mode = mode.text) :
    (Mode.all.map fun mode => (modeRows rows mode).length).sum = rows.length := by
  induction rows with
  | nil => rfl
  | cons row rows ih =>
    obtain ⟨mode, hmode⟩ := h row List.mem_cons_self
    have ih' := ih fun row' hrow' => h row' (List.mem_cons_of_mem _ hrow')
    have htext : ∀ m : Mode, (modeRows (row :: rows) m).length =
        (if mode = m then 1 else 0) + (modeRows rows m).length := fun m => by
      have hiff : row.mode = m.text ↔ mode = m := by
        rw [hmode]
        exact ⟨fun heq => by revert heq; cases mode <;> cases m <;> decide, congrArg _⟩
      by_cases hm : mode = m
      · simp [modeRows, hiff, hm, Nat.add_comm]
      · simp [modeRows, hiff, hm]
    simp only [Mode.all, List.map_cons, List.map_nil, List.sum_cons, List.sum_nil, htext,
      List.length_cons] at ih' ⊢
    cases mode <;> simp <;> omega

end Count

theorem summarizeMode_returns (rows : List SampleRow) (mode : Mode) :
    ∃ entry, summarizeMode rows mode = .ok entry ∧ entry.samples = (modeRows rows mode).length ∧
      entry.successes = ((modeRows rows mode).filter (·.success)).length ∧
      entry.failures = entry.samples - entry.successes := by
  choose g hg using fun metric : Metric =>
    describe_returns (((modeRows rows mode).filter (·.success)).map (·.value metric))
  rw [summarizeMode, Metric.dict_eq_ok_iff.mpr hg]
  exact ⟨_, rfl, rfl, rfl, rfl⟩

/-- **`summarize` does not raise**, and counts, for every mode, its rows and the
successful ones among them. -/
theorem summarize_returns (rows : List SampleRow) :
    ∃ summary, summarize rows = .ok summary ∧ ∀ mode,
      (summary.modes mode).samples = (modeRows rows mode).length ∧
      (summary.modes mode).successes = ((modeRows rows mode).filter (·.success)).length ∧
      (summary.modes mode).failures =
        (summary.modes mode).samples - (summary.modes mode).successes := by
  choose entry hentry hcounts using summarizeMode_returns rows
  rw [summarize, Mode.dict_eq_ok_iff.mpr hentry]
  exact ⟨_, rfl, hcounts⟩

end HybridTls

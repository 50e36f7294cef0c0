import HybridTls.Analytics
import HybridTls.Routes

/-!
# Listing the runs

The query behind the list of runs, and how its counts compare with the statistics
of the measurements.

The samples of a run are counted twice, by the database and by `summarize`. The
database joins every run with its measurements and counts what the join has for
it, where a run without measurements has one row without any
(`HybridTls.Store.joined`); so its conditional sum is never a sum of nothing, and
not null. `summarize` counts the rows of each mode, and of the successful ones
among them. What it takes for the two to agree (`HybridTls.Countable`) is

* that no run is named by the empty text, which `measurements` takes for no run at
  all,
* that `success` is 0 or 1, since the database compares it with 1 and Python with 0.

All the rest is declared by the tables: that the modes are modes of `summarize`,
that no run occurs twice, and that every measurement has its run.
-/

namespace HybridTls

open Keyed Python

/-! ### The query -/

/-- A row of `runs`. -/
structure RunSummary extends RunRow where
  samples : ℕ
  successes : Option ℤ
  deriving DecidableEq, Repr

/-- The measurements of a run. -/
def Store.ofRun (s : Store) (r : String) : List MeasurementRow :=
  s.measurements.rows.filter fun m => m.runId = r

/-- `LEFT JOIN measurements m ON m.run_id=r.id`: what the join has for a run. -/
def Store.joined (s : Store) (r : RunRow) : List (Option MeasurementRow) :=
  match s.ofRun r.id with
  | [] => [none]
  | ms => ms.map some

/-- `SUM`, which is null of nothing. -/
def sqlSum : List ℤ → Option ℤ
  | [] => none
  | ns => some ns.sum

/-- The row of a run: its primary key makes it a group of its own. -/
def Store.runSummary (s : Store) (r : RunRow) : RunSummary :=
  { r with
    samples := (s.joined r).countP (·.isSome)
    successes := sqlSum ((s.joined r).map fun m =>
      if m.any fun m => m.success = 1 then 1 else 0) }

/-- `runs`. -/
def Store.runSummaries (s : Store) (limit : ℤ) : List RunSummary :=
  takeLimit (some limit) ((s.runs.rows.map s.runSummary).insertionSort
    fun a b => b.startedAt ≤ a.startedAt)

section Query

variable {s : Store} {r : RunRow}

/-- What the database counts. -/
theorem runSummary_eq (s : Store) (r : RunRow) :
    (s.runSummary r).samples = (s.ofRun r.id).length ∧
      (s.runSummary r).successes =
        some (((s.ofRun r.id).filter fun m => m.success = 1).length : ℤ) := by
  -- a run without measurements has one row, which counts for nothing
  have hsum : ∀ ms : List MeasurementRow,
      (ms.map fun m => if m.success = 1 then (1 : ℤ) else 0).sum =
        ((ms.filter fun m => m.success = 1).length : ℤ) := by
    intro ms
    induction ms with
    | nil => rfl
    | cons m ms ih =>
      rw [List.map_cons, List.sum_cons, ih, List.filter_cons]
      by_cases h : m.success = 1
      · simp [h, Int.add_comm]
      · simp [h]
  rw [← hsum]
  simp only [Store.runSummary, Store.joined]
  rcases s.ofRun r.id with _ | ⟨m, ms⟩
  · exact ⟨rfl, rfl⟩
  · refine ⟨by simp [List.countP_eq_length], ?_⟩
    simp [sqlSum, Function.comp_def]

/-- The runs listed are runs of the store. -/
theorem mem_runSummaries {limit : ℤ} {x : RunSummary} (hx : x ∈ s.runSummaries limit) :
    ∃ r ∈ s.runs.rows, s.runSummary r = x := by
  have hmem : x ∈ s.runs.rows.map s.runSummary := by
    rw [Store.runSummaries, takeLimit] at hx
    split at hx
    · exact (List.mem_insertionSort _).mp hx
    · exact (List.mem_insertionSort _).mp (List.mem_of_mem_take hx)
  exact List.mem_map.mp hmem

/-- With room for all the runs, all are listed. -/
theorem runSummaries_perm {limit : ℤ} (h : (s.runs.rows.length : ℤ) ≤ limit) :
    (s.runSummaries limit).Perm (s.runs.rows.map s.runSummary) := by
  have hnot : ¬ limit < 0 := by omega
  rw [Store.runSummaries, takeLimit, if_neg hnot, List.take_of_length_le]
  · exact List.perm_insertionSort _ _
  · rw [List.length_insertionSort, List.length_map]
    omega

end Query

/-! ### The two counts -/

/-- What `summarize` is given of the measurements of a run. -/
def Store.samples (s : Store) (runId : Option String) : List SampleRow :=
  (s.measurementRows runId none).map MeasurementRow.sample

/-- **The two counts agree** on a run: the samples listed with it are the rows
`measurements` returns, and those of its statistics over all modes; so are the
successes, which are not null, and the failures are the rest. -/
structure CountsAgree (s : Store) (x : RunSummary) (summary : Summary) : Prop where
  listed : x.samples = (s.measurementRows (some x.id) none).length
  samples : x.samples = (Mode.all.map fun mode => (summary.modes mode).samples).sum
  successes : x.successes =
    some (((Mode.all.map fun mode => (summary.modes mode).successes).sum : ℕ) : ℤ)
  failures : ∀ successes ∈ x.successes,
    (Mode.all.map fun mode => (summary.modes mode).failures).sum = x.samples - successes

/-- **What it takes for the counts to agree.** -/
structure Countable (s : Store) : Prop where
  named : ∀ r ∈ s.runs.rows, r.id ≠ ""
  flags : ∀ m ∈ s.measurements.rows, m.success = 0 ∨ m.success = 1

section Agree

variable {s : Store} {r : String}

theorem length_measurementRows (hr : r ≠ "") :
    (s.measurementRows (some r) none).length = (s.ofRun r).length := by
  have hsel : selects (some r) = fun m => decide (m.runId = r) := funext fun m => by
    simp [selects, hr]
  rw [Store.measurementRows, List.length_map, takeLimit, List.length_insertionSort, hsel]
  rfl

theorem samples_perm (hr : r ≠ "") :
    (s.samples (some r)).Perm ((s.ofRun r).map fun m => m.dict.sample) := by
  have hsel : selects (some r) = fun m => decide (m.runId = r) := funext fun m => by
    simp [selects, hr]
  rw [Store.samples, Store.measurementRows, takeLimit, List.map_map, hsel]
  exact (List.perm_insertionSort _ _).map _

/-- Every stored mode is a mode of `summarize`. -/
theorem mode_of_mem_samples (hr : r ≠ "") :
    ∀ row ∈ s.samples (some r), ∃ mode : Mode, row.mode = mode.text := by
  intro row hrow
  obtain ⟨m, hm, rfl⟩ := List.mem_map.mp ((samples_perm hr).mem_iff.mp hrow)
  rcases s.checked m (List.mem_of_mem_filter hm) with hmode | hmode
  · exact ⟨.classical, hmode⟩
  · exact ⟨.hybrid, hmode⟩

/-- What Python takes for a success is what the database takes for one. -/
theorem length_successful (hr : r ≠ "") (hs : Countable s) :
    ((s.samples (some r)).filter (·.success)).length =
      ((s.ofRun r).filter fun m => m.success = 1).length := by
  rw [((samples_perm hr).filter _).length_eq, List.filter_map, List.length_map]
  refine congrArg List.length (List.filter_congr fun m hm => ?_)
  rcases hs.flags m (List.mem_of_mem_filter hm) with h | h <;>
    simp [MeasurementRow.sample, MeasurementRow.dict, h]

/-- **The two counts agree on every run that is listed.** -/
theorem Countable.countsAgree (hs : Countable s) {limit : ℤ} {x : RunSummary}
    (hx : x ∈ s.runSummaries limit) :
    ∃ summary, summarize (s.samples (some x.id)) = .ok summary ∧ CountsAgree s x summary := by
  obtain ⟨row, hrow, rfl⟩ := mem_runSummaries hx
  have hr : row.id ≠ "" := hs.named row hrow
  obtain ⟨hsamples, hsuccesses⟩ := runSummary_eq s row
  obtain ⟨summary, hsummary, hcounts⟩ := summarize_returns (s.samples (some row.id))
  have hmodes := mode_of_mem_samples (s := s) hr
  have hsum : (Mode.all.map fun mode => (summary.modes mode).samples).sum =
      (s.ofRun row.id).length := by
    simp only [hcounts]
    rw [sum_length_modeRows hmodes, (samples_perm hr).length_eq, List.length_map]
  have hsum' : (Mode.all.map fun mode => (summary.modes mode).successes).sum =
      ((s.ofRun row.id).filter fun m => m.success = 1).length := by
    simp only [hcounts, modeRows_filter]
    rw [sum_length_modeRows fun row' hrow' => hmodes row' (List.mem_of_mem_filter hrow'),
      length_successful hr hs]
  refine ⟨summary, hsummary, hsamples.trans (length_measurementRows hr).symm,
    hsamples.trans hsum.symm, ?_, ?_⟩
  · rw [hsum', hsuccesses]
  · intro n hn
    obtain rfl : _ = n := Option.some.inj (hsuccesses.symm.trans hn)
    rw [hsamples, ← hsum, ← hsum']
    simp only [Mode.all, List.map_cons, List.map_nil, List.sum_cons, List.sum_nil, hcounts]
    omega

/-- **No row is missing from the runs or counted twice.** -/
theorem sum_samples {limit : ℤ} (h : (s.runs.rows.length : ℤ) ≤ limit) :
    ((s.runSummaries limit).map (·.samples)).sum = (s.measurementRows none none).length := by
  have hrows : (s.measurementRows none none).length = s.measurements.rows.length := by
    rw [Store.measurementRows, List.length_map, takeLimit, List.length_insertionSort]
    exact congrArg List.length (List.filter_eq_self.mpr fun _ _ => rfl)
  have hcount : ∀ r : RunRow, (s.runSummary r).samples =
      s.measurements.rows.countP fun m => m.runId = r.id := fun r => by
    rw [(runSummary_eq s r).1, Store.ofRun, List.countP_eq_length_filter]
  rw [((runSummaries_perm h).map _).sum_eq, List.map_map, hrows,
    ← Table.sum_countP_key s.runs s.references]
  exact congrArg List.sum (List.map_congr_left fun r _ => hcount r)

end Agree

/-! ### What the dashboard stores -/

section Reachable

variable {t₁ t₂ : Timestamp} {s s' : Store} {op : Op}

/-- A flag is written by nothing but the two queries, as 0 or 1. -/
theorem Effect.flags (heff : Effect t₁ t₂ s s' op)
    (hs : ∀ m ∈ s.measurements.rows, m.success = 0 ∨ m.success = 1) :
    ∀ m ∈ s'.measurements.rows, m.success = 0 ∨ m.success = 1 := by
  cases heff with
  | createRun p hp hruns hmeas => rwa [hmeas]
  | completeRun runId hruns hmeas => rwa [hmeas]
  | record p hp hruns hmeas =>
    have hclient : ∀ q : ClientPost, (q.row t₂).success = 0 ∨ (q.row t₂).success = 1 := fun q => by
      simp only [ClientPost.row]
      split
      · exact Or.inr rfl
      · exact Or.inl rfl
    rw [hmeas]
    refine Table.forall_upsert hs (fun _ => ?_) fun m hm _ => ?_
    · cases p with
      | server q => exact Or.inr rfl
      | client q => exact hclient q
    · cases p with
      | server q => exact hs m hm
      | client q => exact hclient q

/-- Whatever the dashboard stores can be counted. -/
theorem countable_dashboard (clock : ℕ → Timestamp)
    (requests : List (Request × (ℕ → Option DbError))) :
    Countable ((dashboard clock).run requests).store := by
  refine dashboard_invariant clock ⟨by simp [Store.empty], by simp [Store.empty]⟩ ?_ requests
  intro t₁ t₂ s s' request op answer hop heff hs
  exact ⟨heff.forall_runs (Request.runId_ne hop) hs.named, heff.flags hs.flags⟩

end Reachable

/-- **The database and the statistics count alike**, in whatever state the dashboard
has reached, however the requests were mixed and whichever of them failed: on every
run that is listed, and, if there is room for all the runs in the list, on the whole
of the measurements. -/
theorem counts_agree (clock : ℕ → Timestamp)
    (requests : List (Request × (ℕ → Option DbError))) (limit : ℤ) :
    let s := ((dashboard clock).run requests).store
    (∀ x ∈ s.runSummaries limit, ∃ summary,
      summarize (s.samples (some x.id)) = .ok summary ∧ CountsAgree s x summary) ∧
    ((s.runs.rows.length : ℤ) ≤ limit →
      ((s.runSummaries limit).map (·.samples)).sum = (s.measurementRows none none).length) :=
  ⟨fun _ => (countable_dashboard clock requests).countsAgree, sum_samples⟩

/-- A run that was completed without ever having been created, and has no
measurements. -/
theorem counts_agree_complete :
    let s := ((dashboard fun _ => "").run [completeRequest ⟨"run-1", by decide⟩]).store
    s.runs.rows.length = 1 ∧
      ((s.runSummaries 20).map (·.samples)).sum = (s.measurementRows none none).length :=
  ⟨rfl, (counts_agree (fun _ => "") [completeRequest ⟨"run-1", by decide⟩] 20).2 (by decide)⟩

end HybridTls

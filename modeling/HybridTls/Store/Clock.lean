import HybridTls.Lib.Calendar
import HybridTls.Lib.Ranking
import HybridTls.Store.Export
import HybridTls.Store.Snapshot

/-!
# The clock of the store

The timestamps of the store are texts, and the queries sort by them. `iso_now` writes them in
such a way that this is the order of time (`HybridTls.isoClock`): the lists that the dashboard
shows have the latest rows first, to the millisecond, whatever the clock has shown and whatever
has been posted (`HybridTls.listings_chronological`), and the run that it selects by itself is
one that has started last.
-/

namespace HybridTls

open Keyed Python Ranking

/-- `iso_now`, of a clock that shows the time in UTC. -/
def isoClock (now : ℕ → Calendar.DateTime) : ℕ → Timestamp := fun k => (now k).isoformat

/-- **A timestamp is not later than another**: both are times that the clock has shown. -/
def NotLater (now : ℕ → Calendar.DateTime) (t t' : Timestamp) : Prop :=
  ∃ i j, t = isoClock now i ∧ t' = isoClock now j ∧ (now i).milliseconds ≤ (now j).milliseconds

section Clock

variable {now : ℕ → Calendar.DateTime} {s : Store} {t t' : Timestamp}

/-- Timestamps that the clock has shown compare as times. -/
theorem notLater_of_le (ht : t ∈ Set.range (isoClock now)) (ht' : t' ∈ Set.range (isoClock now))
    (h : t ≤ t') : NotLater now t t' := by
  obtain ⟨i, rfl⟩ := ht
  obtain ⟨j, rfl⟩ := ht'
  exact ⟨i, j, rfl, rfl, Calendar.DateTime.isoformat_le_iff.mp h⟩

/-- The timestamps the store sorts by are those of a clock. -/
structure Timestamped (clock : ℕ → Timestamp) (s : Store) : Prop where
  runs : ∀ r ∈ s.runs.rows, r.startedAt ∈ Set.range clock
  measurements : ∀ m ∈ s.measurements.rows, m.createdAt ∈ Set.range clock

/-- **The step**: whatever is inserted has the time at which that was done, and keeps it. -/
theorem Effect.timestamped {clock : ℕ → Timestamp} {k₁ k₂ : ℕ} {s s' : Store} {op : Op}
    (heff : Effect (clock k₁) (clock k₂) s s' op) (hs : Timestamped clock s) :
    Timestamped clock s' := by
  have hensure : ∀ runId, ∀ r ∈ (s.runs.insertOrIgnore (ensureRow runId (clock k₁))).rows,
      r.startedAt ∈ Set.range clock :=
    fun runId => Table.forall_insertOrIgnore hs.runs fun _ => ⟨k₁, rfl⟩
  cases heff with
  | createRun p hp hruns hmeas =>
    refine ⟨?_, hmeas ▸ hs.measurements⟩
    rw [hruns]
    exact Table.forall_upsert hs.runs (fun _ => ⟨_, rfl⟩) fun r hr _ => hs.runs r hr
  | completeRun runId hruns hmeas =>
    refine ⟨?_, hmeas ▸ hs.measurements⟩
    rw [hruns]
    exact Table.forall_modify (hensure runId) fun r hr _ => hensure runId r hr
  | record p hp hruns hmeas =>
    constructor
    · rw [hruns]
      exact hensure _
    · rw [hmeas]
      refine Table.forall_upsert hs.measurements (fun _ => ?_) fun m hm _ => ?_
      · exact ⟨k₂, by cases p <;> rfl⟩
      · rw [(MeasurementRow.identity_eq_iff.mp (p.identity_update _ m)).2.2.2.2]
        exact hs.measurements m hm

theorem timestamped_dashboard (clock : ℕ → Timestamp)
    (requests : List (Request × (ℕ → Option DbError))) :
    Timestamped clock ((dashboard clock).run requests).store :=
  dashboard_invariant_clock clock ⟨by simp [Store.empty], by simp [Store.empty]⟩
    (fun _ heff hs => heff.timestamped hs) requests

/-- What a limit leaves of a list is the beginning of it. -/
theorem prefix_takeLimit {α : Type} (limit : Option ℤ) (xs : List α) :
    takeLimit limit xs <+: xs := by
  fun_cases takeLimit limit xs with
  | case1 => exact List.prefix_rfl
  | case2 n hn => exact List.prefix_rfl
  | case3 n hn => exact List.take_prefix _ _

/-- The rows read are latest first. -/
theorem pairwise_measurementRows (s : Store) (runId : Option String) (limit : Option ℤ) :
    (s.measurementRows runId limit).Pairwise fun a b => b.createdAt ≤ a.createdAt :=
  ((rankBy_pairwise MeasurementRow.createdAt _).sublist (prefix_takeLimit _ _).sublist).map _
    fun _ _ h => h

theorem pairwise_runSummaries (s : Store) (limit : ℤ) :
    (s.runSummaries limit).Pairwise fun a b => b.startedAt ≤ a.startedAt :=
  (rankBy_pairwise (fun x : RunSummary => x.startedAt) _).sublist (prefix_takeLimit _ _).sublist

/-- **The first of the runs listed has started last.** -/
theorem startedAt_le_of_head? {x : RunSummary} {limit : ℤ}
    (hx : (s.runSummaries limit).head? = some x) {r : RunRow} (hr : r ∈ s.runs.rows) :
    r.startedAt ≤ x.startedAt := by
  have hsorted := rankBy_pairwise (fun x : RunSummary => x.startedAt)
    (s.runs.rows.map s.runSummary)
  have hmem : s.runSummary r ∈ rankBy (fun x : RunSummary => x.startedAt)
      (s.runs.rows.map s.runSummary) := mem_rankBy.mpr (List.mem_map_of_mem hr)
  obtain ⟨shown, hshown⟩ := List.head?_eq_some_iff.mp hx
  have hprefix : s.runSummaries limit <+: rankBy (fun x : RunSummary => x.startedAt)
      (s.runs.rows.map s.runSummary) := prefix_takeLimit _ _
  obtain ⟨rest, hrest⟩ := hprefix
  rw [← hrest, hshown, List.cons_append] at hsorted hmem
  rcases List.mem_cons.mp hmem with heq | hlater
  · rw [← heq]
    exact le_refl r.startedAt
  · exact (List.pairwise_cons.mp hsorted).1 _ hlater

/-- What a response says of the run selected, and of its rows. -/
theorem dashboardData_eq_ok {runId : Option String} {data : DashboardData}
    (h : s.dashboardData runId = .ok data) :
    data.selectedRun = selectedRun runId (s.runSummaries 20) ∧
      data.recent = (s.selectedRows data.selectedRun).take 40 := by
  simp only [Store.dashboardData, response, assemble, bind_eq_ok, pure_eq_ok,
    Except.ok.injEq] at h
  obtain ⟨summary, -, rfl⟩ := h
  exact ⟨rfl, rfl⟩

end Clock

/-- **The dashboard lists the latest first.** In whatever state requests have left it, and
whatever the clock has shown, the measurements of a run, or of all of them, are listed in the
order of time, and so are the runs; the run that is selected if none is asked for has started
last; and no measurement that a response leaves out is later than one that it shows. -/
theorem listings_chronological (now : ℕ → Calendar.DateTime)
    (requests : List (Request × (ℕ → Option DbError))) :
    let s := ((dashboard (isoClock now)).run requests).store
    (∀ runId limit, (s.measurementRows runId limit).Pairwise fun a b =>
      NotLater now b.createdAt a.createdAt) ∧
    (∀ limit, (s.runSummaries limit).Pairwise fun a b => NotLater now b.startedAt a.startedAt) ∧
    (∀ data, s.dashboardData none = .ok data → ∀ id ∈ data.selectedRun, ∃ r ∈ s.runs.rows,
      r.id = id ∧ ∀ r' ∈ s.runs.rows, NotLater now r'.startedAt r.startedAt) ∧
    ∀ runId data, s.dashboardData runId = .ok data → ∀ a ∈ data.recent,
      ∀ b ∈ (s.selectedRows data.selectedRun).drop data.recent.length,
        NotLater now b.createdAt a.createdAt := by
  intro s
  obtain ⟨hruns, hmeasurements⟩ := timestamped_dashboard (isoClock now) requests
  have hread : ∀ runId limit, ∀ m ∈ s.measurementRows runId limit,
      m.createdAt ∈ Set.range (isoClock now) := by
    intro runId limit m hm
    obtain ⟨m', hm', rfl⟩ := exists_of_mem_measurementRows hm
    exact hmeasurements m' hm'
  have hrows : ∀ runId limit, (s.measurementRows runId limit).Pairwise fun a b =>
      NotLater now b.createdAt a.createdAt := by
    intro runId limit
    refine (pairwise_measurementRows s runId limit).imp_of_mem fun {a b} ha hb hle => ?_
    exact notLater_of_le (hread runId limit b hb) (hread runId limit a ha) hle
  refine ⟨hrows, ?_, ?_, ?_⟩
  · intro limit
    have hstarted : ∀ x ∈ s.runSummaries limit, x.startedAt ∈ Set.range (isoClock now) := by
      intro x hx
      obtain ⟨r, hr, rfl⟩ := mem_runSummaries hx
      exact hruns r hr
    refine (pairwise_runSummaries s limit).imp_of_mem fun {a b} ha hb hle => ?_
    exact notLater_of_le (hstarted b hb) (hstarted a ha) hle
  · intro data hdata id hid
    rw [(dashboardData_eq_ok hdata).1] at hid
    obtain ⟨x, hx, rfl⟩ := Option.map_eq_some_iff.mp hid
    obtain ⟨r, hr, rfl⟩ := mem_runSummaries (List.mem_of_head? hx)
    refine ⟨r, hr, rfl, fun r' hr' => ?_⟩
    exact notLater_of_le (hruns r' hr') (hruns r hr) (startedAt_le_of_head? hx hr')
  · intro runId data hdata a ha b hb
    have hselected : (s.selectedRows data.selectedRun).Pairwise fun a b =>
        NotLater now b.createdAt a.createdAt := by
      unfold Store.selectedRows
      split
      · exact .nil
      · split
        · exact .nil
        · exact hrows _ _
    rw [(dashboardData_eq_ok hdata).2] at ha hb
    rw [← List.take_append_drop 40 (s.selectedRows data.selectedRun)] at hselected
    refine (List.pairwise_append.mp hselected).2.2 a ha b ?_
    rw [List.length_take] at hb
    rcases Nat.le_total 40 (s.selectedRows data.selectedRun).length with hle | hle
    · rwa [Nat.min_eq_left hle] at hb
    · rw [Nat.min_eq_right hle, List.drop_length] at hb
      cases hb

end HybridTls

import HybridTls.Store.Listing
import Mathlib.Data.List.Induction

/-!
# Reading the dashboard while measurements arrive

`dashboard_data` asks the database twice, on a connection of its own each time:
first for the runs, then for the measurements of the run that is selected. Each
query sees the store as it is committed at that moment, and calls of the
repository may be committed before, between and behind them; that is
`HybridTls.reading`.

So a response belongs to two states of the store, of which the second is the first
or a later one (`HybridTls.answered_response`): the list of runs, with its counts,
to the first, and the rows and their statistics to the second. It is what an
undisturbed call would have returned whenever one of the two queries would have
found the same in both states (`HybridTls.response_snapshot`); a call that is
committed in between and changes what both find shows in one half of the response
only (`HybridTls.not_snapshot_probeOne`).
-/

namespace HybridTls

open Keyed Python Transition

/-! ### The response -/

/-- What `dashboard_data` returns. -/
structure DashboardData where
  selectedRun : Option String
  runs : List RunSummary
  summary : Summary
  recent : List MeasurementRow

/-- The run `dashboard_data` selects: the one it was given, or else the first that is
listed. -/
def selectedRun (runId : Option String) (available : List RunSummary) : Option String :=
  match runId with
  | some r => some r
  | none => available.head?.map (·.id)

/-- The rows of the run that is selected: none if there is no such run, or if it is
named by the empty text. -/
def Store.selectedRows (s : Store) (selected : Option String) : List MeasurementRow :=
  match selected with
  | none => []
  | some r => if r = "" then [] else s.measurementRows (some r) none

/-- The response made of the runs listed and of the rows selected. -/
def assemble (runId : Option String) (available : List RunSummary) (rows : List MeasurementRow) :
    Py DashboardData := do
  return {
    selectedRun := selectedRun runId available
    runs := available
    summary := ← summarize (rows.map MeasurementRow.sample)
    recent := rows.take 40 }

/-- The response whose runs are listed in one state, and whose rows are read in
another. -/
def response (runId : Option String) (s₁ s₂ : Store) : Py DashboardData :=
  assemble runId (s₁.runSummaries 20) (s₂.selectedRows (selectedRun runId (s₁.runSummaries 20)))

/-- `dashboard_data`, undisturbed. -/
def Store.dashboardData (s : Store) (runId : Option String) : Py DashboardData :=
  response runId s s

/-! ### Queries among calls -/

/-- How far a call of `dashboard_data` has come. -/
inductive ReadProgress where
  | started
  /-- The runs have been listed. -/
  | listed (available : List RunSummary)
  | answered (response : Py DashboardData)

/-- The store, and the call that reads it. -/
structure Reading where
  world : World
  progress : ReadProgress

/-- What happens next: a call of the repository, or a query of `dashboard_data`. -/
inductive Event where
  | call (c : Call)
  | query

/-- The next query. -/
def ReadProgress.query (runId : Option String) (s : Store) : ReadProgress → ReadProgress
  | .started =>
    let available := s.runSummaries 20
    match selectedRun runId available with
    -- the measurements are not asked for
    | none | some "" => .answered (assemble runId available [])
    | some _ => .listed available
  | .listed available =>
    .answered (assemble runId available (s.selectedRows (selectedRun runId available)))
  | .answered response => .answered response

/-- **A call of `dashboard_data`** that starts in the state `w`. -/
def reading (clock : ℕ → Timestamp) (runId : Option String) (w : World) :
    Machine Reading Event where
  init := ⟨w, .started⟩
  step x event :=
    match event with
    | .call c => { x with world := (exec clock x.world c).2 }
    | .query => { x with progress := x.progress.query runId x.world.store }

/-- The calls among the events. -/
def Event.call? : Event → Option Call
  | .call c => some c
  | .query => none

/-- The store after some calls. -/
def storeAfter (clock : ℕ → Timestamp) (w : World) (calls : List Call) : Store :=
  ((repository clock).runFrom w calls).store

/-- What a call of `dashboard_data` has found so far, the calls `calls` having been
made since it started. -/
def ReadProgress.Explained (clock : ℕ → Timestamp) (runId : Option String) (w : World)
    (calls : List Call) : ReadProgress → Prop
  | .started => True
  | .listed available => ∃ c₁, c₁ <+: calls ∧
      available = (storeAfter clock w c₁).runSummaries 20
  | .answered r => ∃ c₁ c₂, c₁ <+: c₂ ∧ c₂ <+: calls ∧
      r = response runId (storeAfter clock w c₁) (storeAfter clock w c₂)

section Reading

variable {clock : ℕ → Timestamp} {runId : Option String} {w : World} {calls : List Call}

theorem ReadProgress.Explained.mono {calls' : List Call} {p : ReadProgress}
    (h : p.Explained clock runId w calls) (hcalls : calls <+: calls') :
    p.Explained clock runId w calls' := by
  cases p with
  | started => trivial
  | listed available =>
    obtain ⟨c₁, hc₁, havailable⟩ := h
    exact ⟨c₁, hc₁.trans hcalls, havailable⟩
  | answered r =>
    obtain ⟨c₁, c₂, hc₁, hc₂, hr⟩ := h
    exact ⟨c₁, c₂, hc₁, hc₂.trans hcalls, hr⟩

/-- **The step**: a query finds what is committed at that moment. -/
theorem ReadProgress.Explained.query {p : ReadProgress} (h : p.Explained clock runId w calls) :
    (p.query runId (storeAfter clock w calls)).Explained clock runId w calls := by
  cases p with
  | started =>
    simp only [ReadProgress.query]
    split
    · next hselected =>
      refine ⟨calls, calls, List.prefix_rfl, List.prefix_rfl, ?_⟩
      rw [response, hselected]
      rfl
    · next hselected =>
      refine ⟨calls, calls, List.prefix_rfl, List.prefix_rfl, ?_⟩
      rw [response, hselected]
      rfl
    · exact ⟨calls, List.prefix_rfl, rfl⟩
  | listed available =>
    obtain ⟨c₁, hc₁, rfl⟩ := h
    exact ⟨c₁, calls, hc₁, List.prefix_rfl, rfl⟩
  | answered r => exact h

/-- **The run**: at any time, what has been found is explained by the calls made so
far. -/
theorem explained_reading (clock : ℕ → Timestamp) (runId : Option String) (w : World)
    (events : List Event) :
    ((reading clock runId w).run events).world =
        (repository clock).runFrom w (events.filterMap Event.call?) ∧
      ((reading clock runId w).run events).progress.Explained clock runId w
        (events.filterMap Event.call?) := by
  induction events using List.reverseRecOn with
  | nil => exact ⟨rfl, trivial⟩
  | append_singleton events event ih =>
    obtain ⟨hworld, hexplained⟩ := ih
    rw [Machine.run_append]
    cases event with
    | call c =>
      have hcalls : (events ++ [Event.call c]).filterMap Event.call? =
          events.filterMap Event.call? ++ [c] := by simp [Event.call?]
      rw [hcalls]
      refine ⟨?_, hexplained.mono (List.prefix_append _ _)⟩
      rw [Machine.runFrom_append, ← hworld]
      rfl
    | query =>
      have hcalls : (events ++ [Event.query]).filterMap Event.call? =
          events.filterMap Event.call? := by simp [Event.call?]
      rw [hcalls]
      refine ⟨hworld, ?_⟩
      have hquery := hexplained.query
      rw [storeAfter, ← hworld] at hquery
      exact hquery

/-- **A response belongs to two states**, of which the second is the first or a later
one. -/
theorem answered_response {events : List Event} {r : Py DashboardData}
    (h : ((reading clock runId w).run events).progress = .answered r) :
    ∃ c₁ c₂, c₁ <+: c₂ ∧ c₂ <+: events.filterMap Event.call? ∧
      r = response runId (storeAfter clock w c₁) (storeAfter clock w c₂) := by
  have hexplained := (explained_reading clock runId w events).2
  rw [h] at hexplained
  exact hexplained

/-- The two halves belong together when either query finds the same in both states. -/
theorem response_snapshot {s₁ s₂ : Store} :
    (s₂.selectedRows (selectedRun runId (s₁.runSummaries 20)) =
        s₁.selectedRows (selectedRun runId (s₁.runSummaries 20)) →
      response runId s₁ s₂ = s₁.dashboardData runId) ∧
    (s₂.runSummaries 20 = s₁.runSummaries 20 →
      response runId s₁ s₂ = s₂.dashboardData runId) := by
  constructor
  · intro h
    rw [response, h]
    rfl
  · intro h
    rw [Store.dashboardData, response, ← h]
    rfl

/-- Responses that are the same list the same runs and show the same rows. -/
theorem response_inj {s₁ s₂ s₁' s₂' : Store}
    (h : response runId s₁ s₂ = response runId s₁' s₂') :
    s₁.runSummaries 20 = s₁'.runSummaries 20 ∧
      (s₂.selectedRows (selectedRun runId (s₁.runSummaries 20))).take 40 =
        (s₂'.selectedRows (selectedRun runId (s₁'.runSummaries 20))).take 40 := by
  have hok : ∀ available rows, ∃ d, assemble runId available rows = .ok d ∧ d.runs = available ∧
      d.recent = rows.take 40 := fun available rows => by
    obtain ⟨summary, hsummary, -⟩ := summarize_returns (rows.map MeasurementRow.sample)
    rw [assemble, hsummary]
    exact ⟨_, rfl, rfl, rfl⟩
  obtain ⟨d, hd, hruns, hrecent⟩ := hok (s₁.runSummaries 20)
    (s₂.selectedRows (selectedRun runId (s₁.runSummaries 20)))
  obtain ⟨d', hd', hruns', hrecent'⟩ := hok (s₁'.runSummaries 20)
    (s₂'.selectedRows (selectedRun runId (s₁'.runSummaries 20)))
  obtain rfl : d = d' := Except.ok.inj (hd.symm.trans (h.trans hd'))
  exact ⟨hruns.symm.trans hruns', hrecent.symm.trans hrecent'⟩

end Reading

/-- **What a response shows**, whatever is committed while it is put together: the
runs, and the run selected among them, are those of one state; the rows and their
statistics are those of that state or of a later one. The whole response is that of
the first state if the second has the same rows of the selected run, and that of the
second if it lists the same runs. -/
theorem reading_consistent {clock : ℕ → Timestamp} {runId : Option String} {w : World}
    {events : List Event} {r : Py DashboardData}
    (h : ((reading clock runId w).run events).progress = .answered r) :
    ∃ c₁ c₂, c₁ <+: c₂ ∧ c₂ <+: events.filterMap Event.call? ∧
      r = response runId (storeAfter clock w c₁) (storeAfter clock w c₂) ∧
      ((storeAfter clock w c₂).selectedRows
          (selectedRun runId ((storeAfter clock w c₁).runSummaries 20)) =
        (storeAfter clock w c₁).selectedRows
          (selectedRun runId ((storeAfter clock w c₁).runSummaries 20)) →
        r = (storeAfter clock w c₁).dashboardData runId) ∧
      ((storeAfter clock w c₂).runSummaries 20 = (storeAfter clock w c₁).runSummaries 20 →
        r = (storeAfter clock w c₂).dashboardData runId) := by
  obtain ⟨c₁, c₂, hc₁, hc₂, rfl⟩ := answered_response h
  exact ⟨c₁, c₂, hc₁, hc₂, rfl, response_snapshot.1, response_snapshot.2⟩

/-- The run `morning`, as it is before its first measurement. -/
def morning : World :=
  (repository fun _ => "2026-01-01").run [(Op.completeRun "morning").call]

/-- A measurement of another run arrives between the two queries. There is one run more then,
but the response is that of one state, since the selected run has the same rows. -/
theorem reading_consistent_evening :
    let clock : ℕ → Timestamp := fun _ => "2026-01-01"
    let c := (probeOne ⟨"evening", by decide⟩).post.op.call
    ∃ r, ((reading clock (some "morning") morning).run [.query, .call c, .query]).progress =
        .answered r ∧
      (storeAfter clock morning [c]).runSummaries 20 ≠ morning.store.runSummaries 20 ∧
      ∃ calls, calls <+: [c] ∧ r = (storeAfter clock morning calls).dashboardData "morning" := by
  intro clock c
  have hruns : (storeAfter clock morning [c]).runSummaries 20 ≠ morning.store.runSummaries 20 :=
    fun h => absurd (congrArg List.length h) (by decide +kernel)
  have hempty : ∀ calls, calls <+: [c] →
      (storeAfter clock morning calls).selectedRows (some "morning") = [] := by
    intro calls hcalls
    rcases List.prefix_cons_iff.mp hcalls with rfl | ⟨t, rfl, ht⟩
    · rfl
    · obtain rfl := List.prefix_nil.mp ht
      rfl
  obtain ⟨c₁, c₂, hc₁, hc₂, -, hfirst, -⟩ :=
    @reading_consistent clock (some "morning") morning [.query, .call c, .query] _ rfl
  exact ⟨_, rfl, hruns, c₁, hc₁.trans hc₂,
    hfirst ((hempty c₂ hc₂).trans (hempty c₁ (hc₁.trans hc₂)).symm)⟩

/-- **A measurement that arrives between the two queries** is among the rows of the
response, but its run is listed without it: no state of the store was like that. -/
theorem not_snapshot_probeOne :
    let clock : ℕ → Timestamp := fun _ => "2026-01-01"
    let c := (probeOne ⟨"morning", by decide⟩).post.op.call
    ∃ r, ((reading clock none morning).run [.query, .call c, .query]).progress = .answered r ∧
      ∀ calls, calls <+: [c] → r ≠ (storeAfter clock morning calls).dashboardData none := by
  intro clock c
  refine ⟨_, rfl, fun calls hcalls h => ?_⟩
  have hresponse : response none morning.store (storeAfter clock morning [c]) =
      response none (storeAfter clock morning calls) (storeAfter clock morning calls) := h
  obtain ⟨hruns, hrecent⟩ := response_inj hresponse
  rcases List.prefix_cons_iff.mp hcalls with rfl | ⟨t, rfl, ht⟩
  · exact absurd (congrArg List.length hrecent) (by decide +kernel)
  · obtain rfl := List.prefix_nil.mp ht
    exact absurd (congrArg (List.map (·.samples)) hruns) (by decide +kernel)

end HybridTls

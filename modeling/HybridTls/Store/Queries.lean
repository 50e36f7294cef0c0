import HybridTls.Store.Calls
import Mathlib.Data.List.Sort

/-!
# Reading measurements

The query behind every view of the measurements, and what a post does to its
answers.

`HybridTls.Store.measurementRows` is the `SELECT`: the rows of a run, or all of
them, latest first. Rows with equal timestamps, whose order the query leaves
open, stay in the order in which they were inserted.

A sample identifier is a key by itself, and a post never moves a row to another
run. So a post stays within its own run, and can be found there, *unless* its
identifier has already been used for something else:
`HybridTls.runs_isolated_iff`.
-/

namespace HybridTls

open Keyed

/-- `LIMIT`, where a negative bound is none. -/
def takeLimit {α : Type} (limit : Option ℤ) (rows : List α) : List α :=
  match limit with
  | none => rows
  | some n => if n < 0 then rows else rows.take n.toNat

/-- A row as `measurements` returns it, with `success` made a `bool`. -/
def MeasurementRow.dict (m : MeasurementRow) : MeasurementRow :=
  { m with success := if m.success = 0 then 0 else 1 }

/-- The `WHERE` clause of `measurements`, which an empty run identifier leaves
out. -/
def selects (runId : Option String) (m : MeasurementRow) : Bool :=
  match runId with
  | none => true
  | some r => r = "" || m.runId = r

/-- `measurements`. -/
def Store.measurementRows (s : Store) (runId : Option String) (limit : Option ℤ) :
    List MeasurementRow :=
  (takeLimit limit ((s.measurements.rows.filter (selects runId)).insertionSort
    fun a b => b.createdAt ≤ a.createdAt)).map MeasurementRow.dict

section Queries

variable {s s' : Store} {m : MeasurementRow} {r : String}

theorem selects_run (hr : r ≠ "") : selects (some r) m ↔ m.runId = r := by
  simp [selects, hr]

/-- The rows of a run, without a limit. -/
theorem mem_measurementRows (hr : r ≠ "") :
    m ∈ s.measurementRows (some r) none ↔
      ∃ m' ∈ s.measurements.rows, m'.runId = r ∧ m'.dict = m := by
  simp only [Store.measurementRows, takeLimit, List.mem_map, List.mem_insertionSort,
    List.mem_filter, selects_run hr, and_assoc]

end Queries

section Isolated

variable {t₁ t₂ : Timestamp} {s s' : Store} {p : Post}

/-- A post leaves the rows of a run alone that is neither its own nor that of the
row it updates. -/
theorem Effect.measurementRows_eq (heff : Effect t₁ t₂ s s' p.op) {r : String} (hr : r ≠ "")
    (hown : r ≠ p.sample.runId)
    (hold : ∀ m ∈ s.measurements.get? p.sample.sampleId, m.runId ≠ r) (limit : Option ℤ) :
    s'.measurementRows (some r) limit = s.measurementRows (some r) limit := by
  have hsel : ∀ {m : MeasurementRow}, m.runId ≠ r → selects (some r) m = false := fun hm =>
    Bool.eq_false_iff.mpr fun h => hm ((selects_run hr).mp h)
  have hfilter : s'.measurements.rows.filter (selects (some r)) =
      s.measurements.rows.filter (selects (some r)) := by
    rw [heff.measurements_record, Store.upserted]
    refine Table.filter_upsert (hsel ?_) fun m hm hk => ?_
    · rw [Post.runId_row]
      exact hown.symm
    · have hrun : m.runId ≠ r := hold m <| by
        rw [← Post.sampleId_row t₂ p, ← hk]
        exact Table.get?_key hm
      refine ⟨hsel hrun, hsel ?_⟩
      rwa [(MeasurementRow.identity_eq_iff.mp (p.identity_update t₂ m)).2.1]
  rw [Store.measurementRows, hfilter, Store.measurementRows]

/-- The row a post leaves behind keeps the identity of the row there was. -/
theorem Effect.identity_eq (heff : Effect t₁ t₂ s s' p.op) {m m' : MeasurementRow}
    (hm : s.measurements.get? p.sample.sampleId = some m)
    (hm' : s'.measurements.get? p.sample.sampleId = some m') : m'.identity = m.identity := by
  rw [heff.get?_measurements, if_pos rfl, hm, Option.elim_some, Option.some.injEq] at hm'
  rw [← hm', p.identity_update]

/-- A post can be found in its own run, as what it says it is, exactly when its
sample identifier has not been used for something else. -/
theorem Effect.exists_own_row_iff (heff : Effect t₁ t₂ s s' p.op) (hr : p.sample.runId ≠ "") :
    (∃ m ∈ s'.measurementRows (some p.sample.runId) none, m.sampleId = p.sample.sampleId ∧
        m.mode = p.sample.mode ∧ m.expectedGroup = p.sample.expectedGroup) ↔
      ∀ m ∈ s.measurements.get? p.sample.sampleId, m.runId = p.sample.runId ∧
        m.mode = p.sample.mode ∧ m.expectedGroup = p.sample.expectedGroup := by
  constructor
  · rintro ⟨_, hmem, hid, hmode, hgroup⟩ m hm
    obtain ⟨m', hm', hrun, rfl⟩ := (mem_measurementRows hr).mp hmem
    have hget : s'.measurements.get? p.sample.sampleId = some m' :=
      Table.get?_eq_some_iff.mpr ⟨hm', hid⟩
    obtain ⟨-, hrun', hmode', hgroup', -⟩ :=
      MeasurementRow.identity_eq_iff.mp (heff.identity_eq hm hget)
    exact ⟨hrun'.symm.trans hrun, hmode'.symm.trans hmode, hgroup'.symm.trans hgroup⟩
  · intro hsame
    have hget := heff.get?_measurements p.sample.sampleId
    rw [if_pos rfl] at hget
    cases hold : s.measurements.get? p.sample.sampleId with
    | none =>
      rw [hold, Option.elim_none] at hget
      refine ⟨(p.row t₂).dict, (mem_measurementRows hr).mpr
        ⟨_, (Table.get?_eq_some_iff.mp hget).1, p.runId_row t₂, rfl⟩, ?_⟩
      exact ⟨p.sampleId_row t₂, p.mode_row t₂, p.expectedGroup_row t₂⟩
    | some m =>
      rw [hold, Option.elim_some] at hget
      obtain ⟨hrun, hmode, hgroup⟩ := hsame m hold
      obtain ⟨hid', hrun', hmode', hgroup', -⟩ :=
        MeasurementRow.identity_eq_iff.mp (p.identity_update t₂ m)
      have hid := (Table.get?_eq_some_iff.mp hold).2
      exact ⟨(p.update t₂ m).dict, (mem_measurementRows hr).mpr
        ⟨_, (Table.get?_eq_some_iff.mp hget).1, hrun'.trans hrun, rfl⟩, hid'.trans hid,
        hmode'.trans hmode, hgroup'.trans hgroup⟩

end Isolated

/-- A run identifier that has passed its schema is not empty. -/
theorem Measurement.runId_ne (m : Measurement) : m.post.sample.runId ≠ "" := by
  have hne : ∀ r : Subtype (IsIdentifier 120), r.1 ≠ "" := by
    rintro ⟨r, hr⟩ rfl
    exact absurd hr.1 (by decide)
  cases m with
  | server m => exact hne m.runId
  | client m => exact hne m.runId

/-- **When runs are isolated.** A validated measurement that is recorded leaves
the rows of every other run alone, and can be found in its own run with its own
mode and expected group, exactly when no row is stored under its sample
identifier for another run, mode or expected group. In any case it leaves every
run alone that is neither its own nor the one that row belongs to. -/
theorem runs_isolated_iff (clock : ℕ → Timestamp) (w : World) (v : Measurement)
    (hok : (exec clock w v.post.op.call).1 = .ok ()) :
    (((∀ r ≠ "", r ≠ v.post.sample.runId →
          (exec clock w v.post.op.call).2.store.measurementRows (some r) none =
            w.store.measurementRows (some r) none) ∧
        ∃ m ∈ (exec clock w v.post.op.call).2.store.measurementRows
            (some v.post.sample.runId) none,
          m.sampleId = v.post.sample.sampleId ∧ m.mode = v.post.sample.mode ∧
            m.expectedGroup = v.post.sample.expectedGroup) ↔
      ∀ m ∈ w.store.measurements.get? v.post.sample.sampleId,
        m.runId = v.post.sample.runId ∧ m.mode = v.post.sample.mode ∧
          m.expectedGroup = v.post.sample.expectedGroup) ∧
    ∀ r ≠ "", r ≠ v.post.sample.runId →
      (∀ m ∈ w.store.measurements.get? v.post.sample.sampleId, m.runId ≠ r) →
      (exec clock w v.post.op.call).2.store.measurementRows (some r) none =
        w.store.measurementRows (some r) none := by
  obtain ⟨t₁, t₂, heff⟩ := exec_effect hok
  have hother : ∀ r ≠ "", r ≠ v.post.sample.runId →
      (∀ m ∈ w.store.measurements.get? v.post.sample.sampleId, m.runId ≠ r) → _ :=
    fun r hr hown hold => heff.measurementRows_eq hr hown hold none
  refine ⟨⟨fun h => (heff.exists_own_row_iff v.runId_ne).mp h.2, fun hsame => ⟨?_, ?_⟩⟩, hother⟩
  · exact fun r hr hown => hother r hr hown fun m hm hrun => hown (hrun.symm.trans (hsame m hm).1)
  · exact (heff.exists_own_row_iff v.runId_ne).mpr hsame

/-- A server measurement of a sample in a run. -/
def probeOf (sampleId : Subtype (IsIdentifier 160)) (runId : Subtype (IsIdentifier 120)) :
    Measurement :=
  .server
    { sampleId
      runId
      mode := .hybrid
      expectedGroup := ⟨"X25519MLKEM768", by decide⟩
      negotiatedGroup := some ⟨"X25519MLKEM768", by decide⟩
      tlsVersion := some ⟨"TLSv1.3", by decide⟩
      cipher := some ⟨"TLS_AES_256_GCM_SHA384", by decide⟩
      serverHandshakeUs := ⟨1500, by decide⟩ }

/-- One of the sample `probe-1`. -/
def probeOne (runId : Subtype (IsIdentifier 120)) : Measurement :=
  probeOf ⟨"probe-1", by decide⟩ runId

/-- A measurement of a second sample, in a second run, can be found there, and the row of the
first run is as it was. -/
theorem runs_isolated_probeTwo :
    let clock : ℕ → Timestamp := fun k => if k < 2 then "2026-01-01" else "2026-01-02"
    let w := (repository clock).run [(probeOne ⟨"morning", by decide⟩).post.op.call]
    let c := (probeOf ⟨"probe-2", by decide⟩ ⟨"evening", by decide⟩).post.op.call
    w.store.measurementRows (some "morning") none ≠ [] ∧
      (exec clock w c).2.store.measurementRows (some "morning") none =
        w.store.measurementRows (some "morning") none ∧
      ∃ m ∈ (exec clock w c).2.store.measurementRows (some "evening") none,
        m.sampleId = "probe-2" ∧ m.mode = "hybrid" ∧ m.expectedGroup = "X25519MLKEM768" := by
  intro clock w c
  have hok : (exec clock w c).1 = .ok () := by rfl
  -- no row is stored under the sample's identifier
  obtain ⟨hothers, hown⟩ := (runs_isolated_iff clock w
    (probeOf ⟨"probe-2", by decide⟩ ⟨"evening", by decide⟩) hok).1.mpr fun m hm => by cases hm
  exact ⟨by decide, hothers "morning" (by decide) (by decide), hown⟩

/-- **A sample identifier used in two runs**: the second post succeeds, its own
run has no row, and the row of the other run is another one than before. -/
theorem runs_not_isolated_probeOne :
    let clock : ℕ → Timestamp := fun k => if k < 2 then "2026-01-01" else "2026-01-02"
    let w := (repository clock).run [(probeOne ⟨"morning", by decide⟩).post.op.call]
    let c := (probeOne ⟨"evening", by decide⟩).post.op.call
    (exec clock w c).1 = .ok () ∧
      (exec clock w c).2.store.measurementRows (some "evening") none = [] ∧
      (exec clock w c).2.store.measurementRows (some "morning") none ≠
        w.store.measurementRows (some "morning") none := by
  decide

end HybridTls

import HybridTls.Lib.KeyedTable
import HybridTls.Schemas

/-!
# The tables of the benchmark store

The two tables of the database and the statements that write them.

What the table definitions declare is carried by the types. A primary key is a
`Keyed.Table`, the `NOT NULL` columns are the ones that are not options, and the
two constraints that speak of a whole table – the `CHECK` on a measurement's
mode and the reference from a measurement to its run – are fields of
`HybridTls.Store`. A statement therefore either proves them of the content it
leaves behind or fails, which is what the database does.

A statement that inserts or updates a measurement is
`HybridTls.Store.upsertMeasurement`, with the row and the `SET` clause of the
query as arguments. As in SQLite, the `CHECK` is made on the row to be inserted
even where a conflict turns the insertion into an update.
-/

namespace HybridTls

open Keyed

/-- A timestamp in the text format of `iso_now`, which sorts as it reads. -/
abbrev Timestamp := String

/-! ### The rows -/

/-- A row of `benchmark_runs`. -/
structure RunRow where
  id : String
  startedAt : Timestamp
  completedAt : Option Timestamp
  clientName : String
  opensslVersion : Option String
  iterations : Option ℤ
  warmup : Option ℤ
  notes : Option String
  deriving DecidableEq, Repr

/-- A row of `measurements`. -/
structure MeasurementRow where
  sampleId : String
  runId : String
  mode : String
  expectedGroup : String
  negotiatedGroup : Option String
  tlsVersion : Option String
  cipher : Option String
  serverHandshakeUs : Option ℤ
  clientTcpUs : Option ℤ
  clientHandshakeUs : Option ℤ
  clientTtfbUs : Option ℤ
  clientTotalUs : Option ℤ
  bytesSent : Option ℤ
  bytesReceived : Option ℤ
  success : ℤ
  error : Option String
  serverRecordedAt : Option Timestamp
  clientRecordedAt : Option Timestamp
  createdAt : Timestamp
  deriving DecidableEq, Repr

/-- The columns of a measurement that no `SET` clause mentions. -/
def MeasurementRow.identity (m : MeasurementRow) :
    String × String × String × String × Timestamp :=
  (m.sampleId, m.runId, m.mode, m.expectedGroup, m.createdAt)

theorem MeasurementRow.identity_eq_iff {m m' : MeasurementRow} :
    m.identity = m'.identity ↔ m.sampleId = m'.sampleId ∧ m.runId = m'.runId ∧ m.mode = m'.mode ∧
      m.expectedGroup = m'.expectedGroup ∧ m.createdAt = m'.createdAt := by
  simp [identity]

/-! ### The store -/

/-- `CHECK(mode IN ('classical','hybrid'))`. -/
def ModeCheck (mode : String) : Prop := mode = "classical" ∨ mode = "hybrid"

instance : DecidablePred ModeCheck := fun mode =>
  inferInstanceAs (Decidable (mode = "classical" ∨ mode = "hybrid"))

/-- **The content of the database**, with the constraints its tables declare. -/
@[ext]
structure Store where
  runs : Table RunRow.id
  measurements : Table MeasurementRow.sampleId
  /-- The `CHECK` on the mode of a measurement. -/
  checked : ∀ m ∈ measurements.rows, ModeCheck m.mode
  /-- `run_id TEXT NOT NULL REFERENCES benchmark_runs(id)`. -/
  references : ∀ m ∈ measurements.rows, m.runId ∈ runs.keys

/-- What `initialize` creates. -/
def Store.empty : Store where
  runs := .empty
  measurements := .empty
  checked := by simp
  references := by simp

/-- What the database layer can raise. -/
inductive DbError where
  /-- A required key is missing from the payload. -/
  | keyError (key : String)
  /-- An integer does not fit a signed 64-bit column. -/
  | overflowError
  /-- A constraint of the table definition failed. -/
  | integrityError (constraint : String)
  /-- The database could not be reached, locked or written. -/
  | operationalError
  deriving DecidableEq, Repr

/-- The largest integer an SQLite column holds: it has 64 bits, one of them for
the sign. -/
def maxInteger : ℤ := 9223372036854775807

/-- The integers an SQLite column holds. -/
def FitsInteger (n : ℤ) : Prop := -maxInteger - 1 ≤ n ∧ n ≤ maxInteger

instance : DecidablePred FitsInteger := fun n =>
  inferInstanceAs (Decidable (-maxInteger - 1 ≤ n ∧ n ≤ maxInteger))

/-- All the integers of a list of parameters fit. -/
def AllFit (ns : List (Option ℤ)) : Prop := ∀ n ∈ ns, ∀ k ∈ n, FitsInteger k

instance : DecidablePred AllFit := fun ns =>
  inferInstanceAs (Decidable (∀ n ∈ ns, ∀ k ∈ n, FitsInteger k))

/-- Bind the integer parameters of a statement. -/
def bindIntegers (ns : List (Option ℤ)) : Except DbError Unit :=
  if AllFit ns then .ok () else .error .overflowError

/-! ### Statements on runs -/

/-- Replace the runs by a table that has all of their keys. -/
def Store.withRuns (s : Store) (runs : Table RunRow.id) (h : ∀ k ∈ s.runs.keys, k ∈ runs.keys) :
    Store where
  runs := runs
  measurements := s.measurements
  checked := s.checked
  references m hm := h _ (s.references m hm)

/-- The row `_ensure_run` inserts: every column it does not name takes its
default. -/
def ensureRow (runId : String) (startedAt : Timestamp) : RunRow where
  id := runId
  startedAt := startedAt
  completedAt := none
  clientName := "openssl-client"
  opensslVersion := none
  iterations := none
  warmup := none
  notes := none

@[simp] theorem id_ensureRow (runId : String) (startedAt : Timestamp) :
    (ensureRow runId startedAt).id = runId := rfl

/-- `INSERT OR IGNORE INTO benchmark_runs(id,started_at) …`. -/
def Store.insertOrIgnoreRun (s : Store) (row : RunRow) : Store :=
  s.withRuns (s.runs.insertOrIgnore row) fun _ hk => Table.mem_keys_upsert.mpr (Or.inr hk)

/-- The `SET` clause of `create_run`. -/
def RunRow.update (excluded old : RunRow) : RunRow :=
  { old with
    clientName := excluded.clientName
    opensslVersion := excluded.opensslVersion
    iterations := excluded.iterations
    warmup := excluded.warmup
    notes := excluded.notes }

@[simp] theorem RunRow.id_update (excluded old : RunRow) : (excluded.update old).id = old.id := rfl

/-- `INSERT INTO benchmark_runs … ON CONFLICT(id) DO UPDATE SET …`. -/
def Store.upsertRun (s : Store) (row : RunRow) : Store :=
  s.withRuns (s.runs.upsert row row.update (RunRow.id_update row)) fun _ hk =>
    Table.mem_keys_upsert.mpr (Or.inr hk)

/-- The `SET` clause of `complete_run`. -/
def RunRow.complete (old : RunRow) (completedAt : Timestamp) : RunRow :=
  { old with completedAt := some completedAt }

@[simp] theorem RunRow.id_complete (completedAt : Timestamp) (old : RunRow) :
    (old.complete completedAt).id = old.id := rfl

/-- `UPDATE benchmark_runs SET completed_at=? WHERE id=?`. -/
def Store.completeRun (s : Store) (runId : String) (completedAt : Timestamp) : Store :=
  s.withRuns (s.runs.modify runId (·.complete completedAt) (RunRow.id_complete completedAt))
    fun _ hk => by rwa [Table.keys_modify]

/-! ### Statements on measurements -/

section Measurement

variable (s : Store) (row : MeasurementRow) (set : MeasurementRow → MeasurementRow)
  (hset : ∀ m, (set m).identity = m.identity)

/-- The measurements after an upsert of one row. -/
def Store.upserted : Table MeasurementRow.sampleId :=
  s.measurements.upsert row set fun m => (MeasurementRow.identity_eq_iff.mp (hset m)).1

variable {s row set hset}

theorem Store.checked_upserted (hc : ModeCheck row.mode) :
    ∀ m ∈ (s.upserted row set hset).rows, ModeCheck m.mode := by
  refine Table.forall_upsert s.checked (fun _ => hc) fun m hm _ => ?_
  rw [(MeasurementRow.identity_eq_iff.mp (hset m)).2.2.1]
  exact s.checked m hm

theorem Store.references_upserted
    (hr : row.sampleId ∈ s.measurements.keys ∨ row.runId ∈ s.runs.keys) :
    ∀ m ∈ (s.upserted row set hset).rows, m.runId ∈ s.runs.keys := by
  refine Table.forall_upsert s.references (fun hn => hr.resolve_left hn) fun m hm _ => ?_
  rw [(MeasurementRow.identity_eq_iff.mp (hset m)).2.1]
  exact s.references m hm

variable (s row set hset)

/-- `INSERT INTO measurements … ON CONFLICT(sample_id) DO UPDATE SET …`. The
reference is checked only where a row is inserted: no `SET` clause writes
`run_id`. -/
def Store.upsertMeasurement : Except DbError Store :=
  if hc : ModeCheck row.mode then
    if hr : row.sampleId ∈ s.measurements.keys ∨ row.runId ∈ s.runs.keys then
      .ok ⟨s.runs, s.upserted row set hset, Store.checked_upserted hc,
        Store.references_upserted hr⟩
    else .error (.integrityError "FOREIGN KEY")
  else .error (.integrityError "CHECK mode")

variable {s row set hset}

/-- **When a measurement is stored**, and what the store is then. -/
theorem Store.upsertMeasurement_eq_ok {s' : Store} :
    s.upsertMeasurement row set hset = .ok s' ↔ ModeCheck row.mode ∧
      (row.sampleId ∈ s.measurements.keys ∨ row.runId ∈ s.runs.keys) ∧
      s'.runs = s.runs ∧ s'.measurements = s.upserted row set hset := by
  unfold Store.upsertMeasurement
  split
  next hc =>
    split
    next hr =>
      rw [Except.ok.injEq, Store.ext_iff]
      exact ⟨fun ⟨h₁, h₂⟩ => ⟨hc, hr, h₁.symm, h₂.symm⟩, fun ⟨_, _, h₁, h₂⟩ => ⟨h₁.symm, h₂.symm⟩⟩
    next hr => exact ⟨fun h => by simp at h, fun h => absurd h.2.1 hr⟩
  next hc => exact ⟨fun h => by simp at h, fun h => absurd h.1 hc⟩

theorem Store.exists_upsertMeasurement (hc : ModeCheck row.mode)
    (hr : row.sampleId ∈ s.measurements.keys ∨ row.runId ∈ s.runs.keys) :
    ∃ s', s.upsertMeasurement row set hset = .ok s' := by
  rw [Store.upsertMeasurement, dif_pos hc, dif_pos hr]
  exact ⟨_, rfl⟩

end Measurement

end HybridTls

import HybridTls.Store.Repository

/-!
# What one call guarantees

Two promises about a single call of a repository operation, in whatever state it
finds the store.

**A call that raises has not happened** (`HybridTls.failed_call_atomic`). The
run row that `_ensure_run` inserted before the failing statement is gone with
it, and whatever is called next meets the store the failed call had met.

**A validated measurement is stored** – except where the two validators
disagree. The request models and the table definitions constrain the same
values twice, and `HybridTls.stored_iff_storable` says that it is the table that
decides. What the schema admits and the table refuses is, exactly
(`HybridTls.measurement_stored_iff`):

| value | schema | table |
|---|---|---|
| mode `hybrid_p256` | a `Mode` | fails the `CHECK` |
| a byte count from 2⁶³ on | `ge=0` | does not fit the column |
-/

namespace HybridTls

open Keyed

/-! ### Failed calls -/

/-- **Failed writes are atomic.** A call that raises, at whatever statement and
for whatever reason, leaves both tables as they were, and every later call
returns or raises, and writes, what it would have at the same moment had the
failed one never been made. -/
theorem failed_call_atomic (clock : ℕ → Timestamp) (w : World) (c : Call) (e : DbError)
    (herr : (exec clock w c).1 = .error e) :
    (exec clock w c).2.store = w.store ∧
      ∀ later : List Call,
        (repository clock).runFrom (exec clock w c).2 later =
          (repository clock).runFrom ⟨w.store, (exec clock w c).2.readings⟩ later ∧
        ∀ next, exec clock ((repository clock).runFrom (exec clock w c).2 later) next =
          exec clock ((repository clock).runFrom ⟨w.store, (exec clock w c).2.readings⟩ later)
            next := by
  have hstore := exec_store_of_error herr
  have hworld : (exec clock w c).2 = ⟨w.store, (exec clock w c).2.readings⟩ := by
    rw [← hstore]
  exact ⟨hstore, fun later => ⟨by rw [← hworld], fun next => by rw [← hworld]⟩⟩

/-- A server measurement in the mode the `CHECK` does not know. -/
def p256Sample : ServerPost where
  sampleId := "run-1-hybrid_p256-000001"
  runId := "run-1"
  mode := "hybrid_p256"
  expectedGroup := "SecP256r1MLKEM768"
  negotiatedGroup := some "SecP256r1MLKEM768"
  tlsVersion := some "TLSv1.3"
  cipher := some "TLS_AES_256_GCM_SHA384"
  serverHandshakeUs := 1500

/-- On the empty store, a measurement that fails the `CHECK` leaves no run
behind. -/
theorem failed_call_atomic_p256 :
    (exec (fun _ => "2026-01-01T00:00:00.000+00:00") ⟨.empty, 0⟩
      (Op.recordServer p256Sample.dump).call).2.store.runs.rows = [] := by
  rw [(failed_call_atomic _ ⟨.empty, 0⟩ _ (.integrityError "CHECK mode") (by rfl)).1]
  rfl

/-! ### Validated measurements -/

/-- A measurement that has passed its schema, of either kind. -/
inductive Measurement where
  | server (m : ServerMeasurement)
  | client (m : ClientMeasurement)

/-- What a measurement that has passed its schema posts. -/
def Measurement.post : Measurement → Post
  | server m => .server m.post
  | client m => .client m.post

/-- A post is stored by a call: the call returns, and afterwards exactly one row
has the sample's identifier. -/
def Stored (clock : ℕ → Timestamp) (w : World) (p : Post) : Prop :=
  (exec clock w p.op.call).1 = .ok () ∧
    (exec clock w p.op.call).2.store.measurements.rows.countP
      (fun m => m.sampleId = p.sample.sampleId) = 1

section Stored

variable {clock : ℕ → Timestamp} {w : World}

/-- **The table decides**: a post is stored exactly when it is storable, in
every state of the store. -/
theorem stored_iff_storable {p : Post} : Stored clock w p ↔ p.Storable := by
  constructor
  · rintro ⟨hok, -⟩
    exact Post.storable_op.mp (exec_eq_ok_iff.mp hok)
  · intro hp
    have hok : (exec clock w p.op.call).1 = .ok () := exec_eq_ok_iff.mpr (Post.storable_op.mpr hp)
    obtain ⟨t₁, t₂, heff⟩ := exec_effect hok
    refine ⟨hok, ?_⟩
    rw [Table.countP_key, heff.get?_measurements, if_pos rfl]
    rfl

/-- The `CHECK` knows two of the three modes. -/
theorem Mode.modeCheck_text {m : Mode} : ModeCheck m.text ↔ m ≠ .hybridP256 := by
  cases m <;> decide

/-- A duration always fits its column. -/
theorem Micros.fitsInteger (n : Micros) : FitsInteger n := by
  obtain ⟨n, hlo, hhi⟩ := n
  have : n ≤ 120000000 := hhi _ rfl
  constructor <;> simp only [maxInteger] <;> omega

/-- A byte count fits its column unless it is too large. -/
theorem ByteCount.fitsInteger_iff (n : ByteCount) : FitsInteger n ↔ n.1 ≤ maxInteger := by
  obtain ⟨n, hlo, -⟩ := n
  constructor
  · exact fun h => h.2
  · exact fun h => ⟨by simp only [maxInteger]; omega, h⟩

@[simp] theorem allFit_nil : AllFit [] := by
  simp [AllFit]

@[simp] theorem allFit_cons {n : Option ℤ} {ns : List (Option ℤ)} :
    AllFit (n :: ns) ↔ (∀ k ∈ n, FitsInteger k) ∧ AllFit ns := by
  simp [AllFit]

theorem fits_micros (n : Option Micros) : ∀ k ∈ n.map Subtype.val, FitsInteger k := by
  cases n with
  | none => simp
  | some n => simpa using n.fitsInteger

theorem fits_byteCount_iff {n : Option ByteCount} :
    (∀ k ∈ n.map Subtype.val, FitsInteger k) ↔ ∀ k ∈ n, k.1 ≤ maxInteger := by
  cases n with
  | none => simp
  | some n => simpa using n.fitsInteger_iff

theorem ServerMeasurement.storable_iff {m : ServerMeasurement} :
    (Post.server m.post).Storable ↔ m.mode ≠ .hybridP256 := by
  rw [← Mode.modeCheck_text]
  simp only [Post.Storable, Post.integers, ServerMeasurement.post, SampleFields.post, Post.sample,
    allFit_cons, allFit_nil, and_true, Option.mem_some_iff, forall_eq']
  exact and_iff_right m.serverHandshakeUs.fitsInteger

theorem ClientMeasurement.storable_iff {m : ClientMeasurement} :
    (Post.client m.post).Storable ↔ m.mode ≠ .hybridP256 ∧
      (∀ n ∈ m.bytesSent, n.1 ≤ maxInteger) ∧ ∀ n ∈ m.bytesReceived, n.1 ≤ maxInteger := by
  rw [← Mode.modeCheck_text, ← fits_byteCount_iff, ← fits_byteCount_iff]
  simp only [Post.Storable, Post.integers, ClientMeasurement.post, SampleFields.post, Post.sample,
    allFit_cons, allFit_nil, and_true]
  constructor
  · rintro ⟨⟨-, -, -, -, hsent, hreceived⟩, hmode⟩
    exact ⟨hmode, hsent, hreceived⟩
  · rintro ⟨hmode, hsent, hreceived⟩
    exact ⟨⟨fits_micros _, fits_micros _, fits_micros _, fits_micros _, hsent, hreceived⟩, hmode⟩

/-- **Which accepted measurements are stored**: in every state of the store, a
measurement that passes its schema is stored exactly when its mode is not
`hybrid_p256` and its byte counts, if it has any, fit their columns. -/
theorem measurement_stored_iff (clock : ℕ → Timestamp) (w : World) :
    (∀ m : ServerMeasurement, Stored clock w (.server m.post) ↔ m.mode ≠ .hybridP256) ∧
      ∀ m : ClientMeasurement, Stored clock w (.client m.post) ↔
        m.mode ≠ .hybridP256 ∧ (∀ n ∈ m.bytesSent, n.1 ≤ maxInteger) ∧
          ∀ n ∈ m.bytesReceived, n.1 ≤ maxInteger :=
  ⟨fun _ => stored_iff_storable.trans ServerMeasurement.storable_iff,
    fun _ => stored_iff_storable.trans ClientMeasurement.storable_iff⟩

/-- The schema accepts the sample in the mode `hybrid_p256`, and the call that
records it on the empty store raises. -/
theorem p256Sample_not_stored :
    (∃ m : ServerMeasurement, ServerMeasurement.validate p256Sample.dump = some m ∧
      m.post = p256Sample) ∧
      ¬ Stored (fun _ => "2026-01-01T00:00:00.000+00:00") ⟨.empty, 0⟩ (.server p256Sample) := by
  constructor
  · have hsome : (ServerMeasurement.validate p256Sample.dump).isSome := by decide
    obtain ⟨m, hm⟩ := Option.isSome_iff_exists.mp hsome
    have hpost := ServerPayload.post?_eq_some_iff.mpr (ServerMeasurement.validate_eq_some_iff.mp hm)
    rw [ServerPayload.post?_eq_some_iff.mpr rfl, Option.some.injEq] at hpost
    exact ⟨m, hm, hpost.symm⟩
  · rw [stored_iff_storable]
    decide

end Stored

end HybridTls

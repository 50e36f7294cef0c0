import HybridTls.Store.Repository

/-!
# The write routes

The four routes of the dashboard that write. Three of them take a body, which
its request model validates before the handler is called; the fourth takes a
path parameter, which nothing validates.

`HybridTls.dashboard` is the machine whose inputs are requests. A request that
fails validation is answered 422 and does not reach the store; one that passes
becomes the call of an operation (`HybridTls.Request.op?`), and the answer to it
says whether that returned.

The store's identifiers are well formed (`HybridTls.ValidIds`) after any
requests whose path parameters are, which is `HybridTls.validIds_dashboard`.
The restriction is the route's own: it completes, and thereby creates, a run
under whatever identifier the path holds.
-/

namespace HybridTls

open Keyed Transition

/-! ### Requests -/

/-- A path parameter: a non-empty segment. -/
def PathSegment : Type := { s : String // s ≠ "" ∧ '/' ∉ s.toList }

/-- A request to one of the write routes. A body is `none` where it is not a
dictionary of values of the types the model declares. -/
inductive Request where
  /-- `POST /api/runs` -/
  | createRun (body : Option RunPayload)
  /-- `POST /api/runs/{run_id}/complete` -/
  | completeRun (runId : PathSegment)
  /-- `POST /api/measurements/server` -/
  | serverMeasurement (body : Option ServerPayload)
  /-- `POST /api/measurements/client` -/
  | clientMeasurement (body : Option ClientPayload)

/-- What a route answers. -/
inductive Response where
  /-- The status of a success, and the identifier it names. -/
  | ok (status : ℕ) (id : String)
  /-- 422: the body failed validation. -/
  | unprocessable
  /-- 500: the operation raised. -/
  | serverError (e : DbError)
  deriving DecidableEq, Repr

/-- The operation a request calls, and the answer to it if that returns; none
where the request fails validation. -/
def Request.op? : Request → Option (Op × Response)
  | .createRun body => do
    let payload ← RunCreate.validate (← body)
    return (.createRun payload.post.dump, .ok 201 payload.runId)
  | .completeRun runId => some (.completeRun runId.1, .ok 200 runId.1)
  | .serverMeasurement body => do
    let payload ← ServerMeasurement.validate (← body)
    return (.recordServer payload.post.dump, .ok 201 payload.sampleId)
  | .clientMeasurement body => do
    let payload ← ClientMeasurement.validate (← body)
    return (.recordClient payload.post.dump, .ok 201 payload.sampleId)

/-- Answer a request, `fault` being the external failures its database calls
meet. -/
def respond (clock : ℕ → Timestamp) (w : World) (request : Request)
    (fault : ℕ → Option DbError) : Response × World :=
  match request.op? with
  | none => (.unprocessable, w)
  | some (op, answer) =>
    match exec clock w ⟨op, fault⟩ with
    | (.ok _, w') => (answer, w')
    | (.error e, w') => (.serverError e, w')

/-- **The dashboard**, as far as it writes: one request after the other. -/
def dashboard (clock : ℕ → Timestamp) :
    Machine World (Request × (ℕ → Option DbError)) where
  init := (repository clock).init
  step w r := (respond clock w r.1 r.2).2

/-- A request does to the store what the call of its operation does, or nothing. -/
theorem snd_respond (clock : ℕ → Timestamp) (w : World) (request : Request)
    (fault : ℕ → Option DbError) :
    (respond clock w request fault).2 =
      request.op?.elim w fun op => (exec clock w ⟨op.1, fault⟩).2 := by
  unfold respond
  cases request.op? with
  | none => rfl
  | some op =>
    simp only [Option.elim_some]
    cases exec clock w ⟨op.1, fault⟩ with
    | mk result w' => cases result <;> rfl

/-! ### Well-formed identifiers -/

/-- **The identifiers of a store are well formed**: those of runs, wherever they
stand, up to 120 characters and those of samples up to 160. -/
structure ValidIds (s : Store) : Prop where
  runs : ∀ r ∈ s.runs.rows, IsIdentifier 120 r.id
  measurements : ∀ m ∈ s.measurements.rows, IsIdentifier 120 m.runId ∧ IsIdentifier 160 m.sampleId

/-- The identifiers an operation names are well formed. -/
def Op.ValidIds : Op → Prop
  | .createRun payload => ∀ r ∈ payload.runId, IsIdentifier 120 r
  | .completeRun runId => IsIdentifier 120 runId
  | .recordServer payload => (∀ r ∈ payload.runId, IsIdentifier 120 r) ∧
      ∀ s ∈ payload.sampleId, IsIdentifier 160 s
  | .recordClient payload => (∀ r ∈ payload.runId, IsIdentifier 120 r) ∧
      ∀ s ∈ payload.sampleId, IsIdentifier 160 s

theorem Post.validIds_op {p : Post} :
    p.op.ValidIds ↔ IsIdentifier 120 p.sample.runId ∧ IsIdentifier 160 p.sample.sampleId := by
  cases p <;> simp [Post.op, Op.ValidIds, ServerPost.dump, ClientPost.dump, SamplePost.dump,
    Post.sample]

theorem Op.ValidIds.runId? {op : Op} (h : op.ValidIds) : ∀ r ∈ op.runId?, IsIdentifier 120 r := by
  cases op with
  | createRun payload => exact h
  | completeRun runId =>
    rintro _ ⟨⟩
    exact h
  | recordServer payload => exact h.1
  | recordClient payload => exact h.1

section Step

variable {t₁ t₂ : Timestamp} {s s' : Store} {op : Op}

/-- What holds of the identifier an operation names, and of those there were, holds
of those there are. -/
theorem Effect.forall_runs {P : String → Prop} (heff : Effect t₁ t₂ s s' op)
    (hop : ∀ r ∈ op.runId?, P r) (hs : ∀ r ∈ s.runs.rows, P r.id) :
    ∀ r ∈ s'.runs.rows, P r.id := by
  have hensure : ∀ now runId, P runId →
      ∀ r ∈ (s.runs.insertOrIgnore (ensureRow runId now)).rows, P r.id :=
    fun now runId hid => Table.forall_insertOrIgnore hs fun _ => hid
  cases heff with
  | createRun p hp hruns hmeas =>
    rw [hruns]
    exact Table.forall_upsert hs (fun _ => hop _ rfl) fun r hr _ => hs r hr
  | completeRun runId hruns hmeas =>
    have hensured := hensure t₁ runId (hop _ rfl)
    rw [hruns]
    exact Table.forall_modify hensured fun r hr _ => hensured r hr
  | record p hp hruns hmeas =>
    rw [hruns]
    exact hensure t₁ _ (hop _ p.runId?_op)

/-- **The step**: an operation that names well-formed identifiers stores no
others. -/
theorem Effect.validIds (heff : Effect t₁ t₂ s s' op) (hop : op.ValidIds) (hs : ValidIds s) :
    ValidIds s' := by
  refine ⟨heff.forall_runs hop.runId? hs.runs, ?_⟩
  cases heff with
  | createRun p hp hruns hmeas => exact hmeas ▸ hs.measurements
  | completeRun runId hruns hmeas => exact hmeas ▸ hs.measurements
  | record p hp hruns hmeas =>
    obtain ⟨hrun, hsample⟩ := Post.validIds_op.mp hop
    rw [hmeas]
    refine Table.forall_upsert hs.measurements (fun _ => ?_) fun m hm _ => ?_
    · rw [p.runId_row, p.sampleId_row]
      exact ⟨hrun, hsample⟩
    · obtain ⟨hid, hrun', -⟩ := MeasurementRow.identity_eq_iff.mp (p.identity_update t₂ m)
      rw [hid, hrun']
      exact hs.measurements m hm

/-- Validation leaves only the path parameter to be looked at. -/
theorem Request.validIds {request : Request} {answer : Response}
    (hpath : ∀ runId, request = .completeRun runId → IsIdentifier 120 runId.1)
    (hop : request.op? = some (op, answer)) : op.ValidIds := by
  cases request with
  | completeRun runId =>
    simp only [Request.op?, Option.some.injEq, Prod.mk.injEq] at hop
    rw [← hop.1]
    exact hpath runId rfl
  | createRun body =>
    simp only [Request.op?, Option.bind_eq_bind, Option.bind_eq_some_iff, Option.pure_def,
      Option.some.injEq, Prod.mk.injEq] at hop
    obtain ⟨-, -, m, -, rfl, -⟩ := hop
    rintro _ ⟨⟩
    exact m.runId.2
  | serverMeasurement body =>
    simp only [Request.op?, Option.bind_eq_bind, Option.bind_eq_some_iff, Option.pure_def,
      Option.some.injEq, Prod.mk.injEq] at hop
    obtain ⟨-, -, m, -, rfl, -⟩ := hop
    exact (Post.validIds_op (p := .server m.post)).mpr ⟨m.runId.2, m.sampleId.2⟩
  | clientMeasurement body =>
    simp only [Request.op?, Option.bind_eq_bind, Option.bind_eq_some_iff, Option.pure_def,
      Option.some.injEq, Prod.mk.injEq] at hop
    obtain ⟨-, -, m, -, rfl, -⟩ := hop
    exact (Post.validIds_op (p := .client m.post)).mpr ⟨m.runId.2, m.sampleId.2⟩

/-- A request whose path parameter is well formed keeps the store's identifiers
so, whatever its body and however it ends. -/
theorem ValidIds.respond {clock : ℕ → Timestamp} {w : World} {request : Request}
    {fault : ℕ → Option DbError}
    (hpath : ∀ runId, request = .completeRun runId → IsIdentifier 120 runId.1)
    (hw : ValidIds w.store) : ValidIds (respond clock w request fault).2.store := by
  rw [snd_respond]
  cases hop : request.op? with
  | none => exact hw
  | some op =>
    rw [Option.elim_some]
    rcases (exec_cases clock w ⟨op.1, fault⟩).2 with ⟨-, hstore⟩ | ⟨-, k₁, k₂, -, -, -, heff⟩
    · rwa [hstore]
    · exact heff.validIds (Request.validIds hpath hop) hw

end Step

/-- **The identifier invariant.** If the path parameter of every request to
complete a run is a well-formed run identifier, the identifiers of the store are
well formed in every state reached, whatever the bodies of the requests and
whichever of them fail. -/
theorem validIds_dashboard (clock : ℕ → Timestamp)
    (requests : List (Request × (ℕ → Option DbError)))
    (hpath : ∀ r ∈ requests, ∀ runId, r.1 = .completeRun runId → IsIdentifier 120 runId.1) :
    ValidIds ((dashboard clock).run requests).store :=
  Machine.invariant_of_inputs (M := dashboard clock) (P := fun w => ValidIds w.store)
    (by constructor <;> simp [dashboard, repository, Store.empty])
    (fun _ _ hr hw => hw.respond hr) hpath

/-! ### Invariants of the dashboard -/

/-- **What every effect keeps holds of whatever the dashboard stores**, the
operations being those that requests can call. -/
theorem dashboard_invariant {P : Store → Prop} (clock : ℕ → Timestamp) (hempty : P .empty)
    (hstep : ∀ {t₁ t₂ s s' request op answer}, Request.op? request = some (op, answer) →
      Effect t₁ t₂ s s' op → P s → P s')
    (requests : List (Request × (ℕ → Option DbError))) :
    P ((dashboard clock).run requests).store := by
  refine Machine.invariant (M := dashboard clock) (P := fun w => P w.store) hempty ?_ requests
  intro w r hw
  change P (respond clock w r.1 r.2).2.store
  rw [snd_respond]
  cases hop : r.1.op? with
  | none => exact hw
  | some op =>
    rw [Option.elim_some]
    rcases (exec_cases clock w ⟨op.1, r.2⟩).2 with ⟨-, hstore⟩ | ⟨-, k₁, k₂, -, -, -, heff⟩
    · rwa [hstore]
    · exact hstep hop heff hw

/-- No request names a run by the empty text. -/
theorem Request.runId_ne {request : Request} {op : Op} {answer : Response}
    (hop : request.op? = some (op, answer)) : ∀ r ∈ op.runId?, r ≠ "" := by
  rintro r hr rfl
  by_cases hpath : ∃ runId, request = .completeRun runId
  · obtain ⟨runId, rfl⟩ := hpath
    simp only [Request.op?, Option.some.injEq, Prod.mk.injEq] at hop
    rw [← hop.1] at hr
    exact runId.2.1 (Option.some.inj hr)
  · have hvalid := Request.validIds (fun runId h => absurd ⟨runId, h⟩ hpath) hop
    exact absurd (hvalid.runId? _ hr).1 (by decide)

/-- A request to complete a run. -/
def completeRequest (runId : PathSegment) : Request × (ℕ → Option DbError) :=
  (.completeRun runId, fun _ => none)

/-- A run completed under a well-formed identifier. -/
theorem validIds_dashboard_complete :
    ValidIds ((dashboard fun _ => "").run [completeRequest ⟨"run-1", by decide⟩]).store := by
  refine validIds_dashboard _ _ fun r hr runId hrun => ?_
  obtain rfl := List.mem_singleton.mp hr
  obtain rfl : _ = runId := Request.completeRun.inj hrun
  decide

/-- **The route stores what its path holds**: a run whose identifier is two words. -/
theorem not_validIds_complete :
    ¬ ValidIds ((dashboard fun _ => "").run [completeRequest ⟨"two words", by decide⟩]).store := by
  intro h
  exact absurd (h.runs (RunRow.complete (ensureRow "two words" "") "") (by decide)) (by decide)

end HybridTls

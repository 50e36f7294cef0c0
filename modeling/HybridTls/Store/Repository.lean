import HybridTls.Lib.Machine
import HybridTls.Lib.Session
import HybridTls.Store.Tables

/-!
# The benchmark repository

The four operations of `BenchmarkRepository` that write, statement by statement,
in a session with the database (`Session`): an operation reads keys of its
payload, reads the clock and executes statements, and any of these may raise.
`HybridTls.transaction` is the context manager they all run in.

Everything the later files say about the store rests on what one call of an
operation can do, which is settled here once:

* `HybridTls.exec_cases` – a call either raises and leaves the committed store
  as it was, or returns and has one of the effects of `HybridTls.Effect`;
* `HybridTls.exec_eq_ok_iff` – a call that meets no external failure returns
  exactly when its payload is storable: its required keys are there, its
  integers fit, and its mode passes the `CHECK`.

The repository is then the machine `HybridTls.repository` whose inputs are calls
(`HybridTls.Call`), each with the external failures it meets.
-/

namespace HybridTls

open Keyed Raising

/-- Computations against the database. -/
abbrev DbM := EStateM DbError (Session Store)

/-- The clock `iso_now` reads, and the external failures of database calls. -/
abbrev Env := Session.Env Timestamp DbError

/-! ### The transaction -/

/-- `connect`: open the database file and set its pragmas. -/
def connect (env : Env) : DbM Unit := Session.call env

/-- The context manager `transaction` around a body. -/
def transaction (env : Env) (body : DbM Unit) : DbM Unit := do
  connect env
  try
    Session.start env
    body
    Session.commit env
  catch e =>
    Session.rollback env
    throw e
  finally
    Session.close

section Transaction

variable {env : Env} {body : DbM Unit} {σ σ' : Session Store}

/-- **When a transaction returns**: no call to the database failed by itself and
the body returned; what the body made of the store is then committed. -/
theorem transaction_eq_ok {u : Unit} :
    transaction env body σ = .ok u σ' ↔
      env.fault σ.calls = none ∧ env.fault (σ.calls + 1) = none ∧
      ∃ v σ₁, body { σ with image := some σ.file, calls := σ.calls + 2 } = .ok v σ₁ ∧
        env.fault σ₁.calls = none ∧
        σ' = { σ₁ with file := σ₁.image.getD σ₁.file, image := none, calls := σ₁.calls + 1 } := by
  simp only [transaction, connect, bind_eq_ok, Session.call_eq_ok, tryFinally_eq_ok,
    tryCatch_rethrow_eq_ok, Session.start_eq_ok, Session.commit_eq_ok, Session.close,
    Session.modify_eq_ok]
  constructor
  · rintro ⟨-, -, ⟨hc, rfl⟩, σ₃, -, ⟨-, -, ⟨hs, rfl⟩, v, σ₁, hb, hf, rfl⟩, rfl⟩
    exact ⟨hc, hs, v, σ₁, hb, hf, rfl⟩
  · rintro ⟨hc, hs, v, σ₁, hb, hf, rfl⟩
    exact ⟨(), _, ⟨hc, rfl⟩, _, (), ⟨(), _, ⟨hs, rfl⟩, v, σ₁, hb, hf, rfl⟩, rfl⟩

/-- A transaction whose body returns does so itself where the database does not
fail. -/
theorem transaction_returns (hf : ∀ k, env.fault k = none)
    (hbody : ∃ v σ₁, body { σ with image := some σ.file, calls := σ.calls + 2 } = .ok v σ₁) :
    ∃ σ', transaction env body σ = .ok () σ' := by
  obtain ⟨v, σ₁, hb⟩ := hbody
  exact ⟨_, transaction_eq_ok.mpr ⟨hf _, hf _, v, σ₁, hb, hf _, rfl⟩⟩

/-- **A transaction that raises has committed nothing**, wherever it raised:
only the commit writes the file, and nothing that follows it can raise. -/
theorem transaction_error (hbody : Keeps Session.Frame body) {e : DbError}
    (h : transaction env body σ = .error e σ') : Session.Frame σ σ' := by
  have hclose : ∀ σ₁ : Session Store, ∃ b σ₂, (Session.close : DbM Unit) σ₁ = .ok b σ₂ :=
    fun σ₁ => ⟨(), _, rfl⟩
  rcases bind_eq_error.mp h with h | ⟨_, σ₁, hcon, h⟩
  · exact Session.frame_call.error h
  obtain ⟨σ₄, h, hfin⟩ := (tryFinally_eq_error hclose).mp h
  obtain ⟨e₁, σ₂, hbody', hhandler⟩ := tryCatch_eq_error.mp h
  -- the guarded part raises at `BEGIN`, in the body, or at the commit
  have hguarded : Session.Frame σ₁ σ₂ := by
    rcases bind_eq_error.mp hbody' with h | ⟨_, τ, hs, h⟩
    · exact Session.frame_start.error h
    refine (Session.frame_start.ok hs).trans ?_
    rcases bind_eq_error.mp h with h | ⟨_, τ', hb, h⟩
    · exact hbody.error h
    exact (hbody.ok hb).trans (Session.frame_commit_error h)
  have hback : Session.Frame σ₂ σ₄ :=
    (Session.frame_bind Session.frame_rollback fun _ => keeps_throw Session.Frame.refl e₁).error
      hhandler
  have hclosed : Session.Frame σ₄ σ' := hfin ▸ Session.frame_close (E := DbError) σ₄
  exact (Session.frame_call.ok hcon).trans (hguarded.trans (hback.trans hclosed))

end Transaction

/-! ### What is read -/

/-- `iso_now`. -/
def isoNow (env : Env) : DbM Timestamp := Session.now env

/-- `payload[key]`, which raises where the key is missing. -/
def required {α : Type} (key : String) : Option α → DbM α
  | some a => pure a
  | none => throw (.keyError key)

@[simp] theorem required_eq_ok {α : Type} {key : String} {v : Option α} {a : α}
    {σ σ' : Session Store} : required key v σ = .ok a σ' ↔ v = some a ∧ σ' = σ := by
  cases v with
  | none => simp [required]
  | some b => simp [required, eq_comm]

theorem frame_required {α : Type} (key : String) (v : Option α) :
    Keeps Session.Frame (required key v) := by
  cases v with
  | none => exact keeps_throw Session.Frame.refl _
  | some a => exact keeps_pure Session.Frame.refl a

/-- The keys both kinds of measurement read into their query, in its order. -/
def readSample (payload : SamplePayload) : DbM SamplePost := do
  let sampleId ← required "sample_id" payload.sampleId
  let runId ← required "run_id" payload.runId
  let mode ← required "mode" payload.mode
  let expectedGroup ← required "expected_group" payload.expectedGroup
  return { sampleId, runId, mode, expectedGroup, negotiatedGroup := payload.negotiatedGroup,
           tlsVersion := payload.tlsVersion, cipher := payload.cipher }

theorem readSample_eq_ok {payload : SamplePayload} {p : SamplePost} {σ σ' : Session Store} :
    readSample payload σ = .ok p σ' ↔ payload = p.dump ∧ σ' = σ := by
  obtain ⟨sampleId, runId, mode, expectedGroup, negotiatedGroup, tlsVersion, cipher⟩ := payload
  simp only [readSample, bind_eq_ok, required_eq_ok, pure_eq_ok, SamplePost.dump,
    SamplePayload.mk.injEq]
  constructor
  · rintro ⟨_, _, ⟨rfl, rfl⟩, _, _, ⟨rfl, rfl⟩, _, _, ⟨rfl, rfl⟩, _, _, ⟨rfl, rfl⟩, rfl, rfl⟩
    exact ⟨⟨rfl, rfl, rfl, rfl, rfl, rfl, rfl⟩, rfl⟩
  · rintro ⟨⟨rfl, rfl, rfl, rfl, rfl, rfl, rfl⟩, rfl⟩
    exact ⟨_, _, ⟨rfl, rfl⟩, _, _, ⟨rfl, rfl⟩, _, _, ⟨rfl, rfl⟩, _, _, ⟨rfl, rfl⟩, rfl, rfl⟩

theorem frame_readSample (payload : SamplePayload) : Keeps Session.Frame (readSample payload) :=
  Session.frame_bind (frame_required _ _) fun _ => Session.frame_bind (frame_required _ _) fun _ =>
    Session.frame_bind (frame_required _ _) fun _ => Session.frame_bind (frame_required _ _)
      fun _ => keeps_pure Session.Frame.refl _

/-! ### The rows that are written -/

/-- The row of `record_server`'s query. -/
def ServerPost.row (p : ServerPost) (now : Timestamp) : MeasurementRow where
  sampleId := p.sampleId
  runId := p.runId
  mode := p.mode
  expectedGroup := p.expectedGroup
  negotiatedGroup := p.negotiatedGroup
  tlsVersion := p.tlsVersion
  cipher := p.cipher
  serverHandshakeUs := some p.serverHandshakeUs
  clientTcpUs := none
  clientHandshakeUs := none
  clientTtfbUs := none
  clientTotalUs := none
  bytesSent := none
  bytesReceived := none
  success := 1
  error := none
  serverRecordedAt := some now
  clientRecordedAt := none
  createdAt := now

/-- The `SET` clause of `record_server`. -/
def MeasurementRow.updateServer (excluded old : MeasurementRow) : MeasurementRow :=
  { old with
    negotiatedGroup := excluded.negotiatedGroup
    tlsVersion := excluded.tlsVersion
    cipher := excluded.cipher
    serverHandshakeUs := excluded.serverHandshakeUs
    serverRecordedAt := excluded.serverRecordedAt }

/-- `bool(payload.get("success"))`. -/
def ClientPost.succeeded (p : ClientPost) : Bool := p.success.getD false

/-- The row of `record_client`'s query. -/
def ClientPost.row (p : ClientPost) (now : Timestamp) : MeasurementRow where
  sampleId := p.sampleId
  runId := p.runId
  mode := p.mode
  expectedGroup := p.expectedGroup
  negotiatedGroup := p.negotiatedGroup
  tlsVersion := p.tlsVersion
  cipher := p.cipher
  serverHandshakeUs := none
  clientTcpUs := p.clientTcpUs
  clientHandshakeUs := p.clientHandshakeUs
  clientTtfbUs := p.clientTtfbUs
  clientTotalUs := p.clientTotalUs
  bytesSent := p.bytesSent
  bytesReceived := p.bytesReceived
  success := if p.succeeded then 1 else 0
  error := p.error
  serverRecordedAt := none
  clientRecordedAt := some now
  createdAt := now

/-- The `SET` clause of `record_client`, where `Option.or` is `COALESCE`. -/
def MeasurementRow.updateClient (excluded old : MeasurementRow) : MeasurementRow :=
  { old with
    negotiatedGroup := excluded.negotiatedGroup.or old.negotiatedGroup
    tlsVersion := excluded.tlsVersion.or old.tlsVersion
    cipher := excluded.cipher.or old.cipher
    clientTcpUs := excluded.clientTcpUs
    clientHandshakeUs := excluded.clientHandshakeUs
    clientTtfbUs := excluded.clientTtfbUs
    clientTotalUs := excluded.clientTotalUs
    bytesSent := excluded.bytesSent
    bytesReceived := excluded.bytesReceived
    success := excluded.success
    error := excluded.error
    clientRecordedAt := excluded.clientRecordedAt }

/-- A measurement post of either kind. -/
inductive Post where
  | server (p : ServerPost)
  | client (p : ClientPost)
  deriving DecidableEq, Repr

namespace Post

/-- The columns both kinds share. -/
def sample : Post → SamplePost
  | server p => p.toSamplePost
  | client p => p.toSamplePost

/-- The integer parameters of the query. -/
def integers : Post → List (Option ℤ)
  | server p => [some p.serverHandshakeUs]
  | client p => [p.clientTcpUs, p.clientHandshakeUs, p.clientTtfbUs, p.clientTotalUs, p.bytesSent,
      p.bytesReceived]

/-- The row of the query. -/
def row (now : Timestamp) : Post → MeasurementRow
  | server p => p.row now
  | client p => p.row now

/-- The `SET` clause of the query. -/
def update (now : Timestamp) : Post → MeasurementRow → MeasurementRow
  | server p => (p.row now).updateServer
  | client p => (p.row now).updateClient

theorem identity_update (now : Timestamp) (p : Post) (m : MeasurementRow) :
    (p.update now m).identity = m.identity := by
  cases p <;> rfl

@[simp] theorem sampleId_row (now : Timestamp) (p : Post) :
    (p.row now).sampleId = p.sample.sampleId := by
  cases p <;> rfl

@[simp] theorem runId_row (now : Timestamp) (p : Post) : (p.row now).runId = p.sample.runId := by
  cases p <;> rfl

@[simp] theorem mode_row (now : Timestamp) (p : Post) : (p.row now).mode = p.sample.mode := by
  cases p <;> rfl

@[simp] theorem expectedGroup_row (now : Timestamp) (p : Post) :
    (p.row now).expectedGroup = p.sample.expectedGroup := by
  cases p <;> rfl

/-- The query of a post. -/
def query (p : Post) (now : Timestamp) (s : Store) : Except DbError Store := do
  bindIntegers p.integers
  s.upsertMeasurement (p.row now) (p.update now) (p.identity_update now)

/-- **A post is storable**: its integers fit, and its mode passes the `CHECK`. -/
def Storable (p : Post) : Prop := AllFit p.integers ∧ ModeCheck p.sample.mode

instance : DecidablePred Storable := fun p =>
  inferInstanceAs (Decidable (AllFit p.integers ∧ ModeCheck p.sample.mode))

end Post

/-- The client's name in `create_run`'s query: a missing one takes the default of
`get`, a null one stays null. -/
def RunPost.client (p : RunPost) : Option String := p.clientName.getD (some "openssl-client")

/-- The row of `create_run`'s query, which has a client name by the time it is
written. -/
def RunPost.row (p : RunPost) (now : Timestamp) : RunRow where
  id := p.runId
  startedAt := now
  completedAt := none
  clientName := p.client.getD "openssl-client"
  opensslVersion := p.opensslVersion
  iterations := p.iterations
  warmup := p.warmup
  notes := p.notes

@[simp] theorem RunPost.id_row (p : RunPost) (now : Timestamp) : (p.row now).id = p.runId := rfl

/-- A run post is storable when its integers fit and its client name is not
null. -/
def RunPost.Storable (p : RunPost) : Prop :=
  AllFit [p.iterations, p.warmup] ∧ p.client ≠ none

instance : DecidablePred RunPost.Storable := fun p =>
  inferInstanceAs (Decidable (AllFit [p.iterations, p.warmup] ∧ p.client ≠ none))

/-- The query of a run post; `client_name` is `NOT NULL`. -/
def RunPost.query (p : RunPost) (now : Timestamp) (s : Store) : Except DbError Store := do
  bindIntegers [p.iterations, p.warmup]
  if p.client = none then throw (.integrityError "NOT NULL client_name")
  return s.upsertRun (p.row now)

theorem RunPost.query_eq_ok {p : RunPost} {now : Timestamp} {s s' : Store} :
    p.query now s = .ok s' ↔ p.Storable ∧ s' = s.upsertRun (p.row now) := by
  unfold RunPost.query RunPost.Storable bindIntegers
  by_cases hfit : AllFit [p.iterations, p.warmup]
  · by_cases hclient : p.client = none
    · rw [if_pos hfit, if_pos hclient]
      exact iff_of_false (fun hc => by cases hc) fun hs => hs.1.2 hclient
    · rw [if_pos hfit, if_neg hclient]
      change Except.ok _ = _ ↔ _
      simp [hfit, hclient, eq_comm]
  · rw [if_neg hfit]
    exact iff_of_false (fun hc => by cases hc) fun hs => hfit hs.1.1

/-! ### The operations -/

/-- `_ensure_run`. -/
def ensureRun (env : Env) (runId : String) : DbM Unit := do
  let now ← isoNow env
  Session.execute env fun s => .ok (s.insertOrIgnoreRun (ensureRow runId now))

/-- `create_run`. -/
def createRun (env : Env) (payload : RunPayload) : DbM Unit :=
  transaction env do
    let runId ← required "run_id" payload.runId
    let now ← isoNow env
    Session.execute env (RunPost.query
      { runId
        clientName := payload.clientName
        opensslVersion := payload.opensslVersion
        iterations := payload.iterations
        warmup := payload.warmup
        notes := payload.notes } now)

/-- `complete_run`. -/
def completeRun (env : Env) (runId : String) : DbM Unit :=
  transaction env do
    ensureRun env runId
    let now ← isoNow env
    Session.execute env fun s => .ok (s.completeRun runId now)

/-- `record_server`. -/
def recordServer (env : Env) (payload : ServerPayload) : DbM Unit :=
  transaction env do
    ensureRun env (← required "run_id" payload.runId)
    let now ← isoNow env
    let sample ← readSample payload.toSamplePayload
    let serverHandshakeUs ← required "server_handshake_us" payload.serverHandshakeUs
    Session.execute env (Post.query (.server { sample with serverHandshakeUs }) now)

/-- `record_client`. -/
def recordClient (env : Env) (payload : ClientPayload) : DbM Unit :=
  transaction env do
    ensureRun env (← required "run_id" payload.runId)
    let now ← isoNow env
    let sample ← readSample payload.toSamplePayload
    Session.execute env (Post.query (.client
      { sample with
        clientTcpUs := payload.clientTcpUs
        clientHandshakeUs := payload.clientHandshakeUs
        clientTtfbUs := payload.clientTtfbUs
        clientTotalUs := payload.clientTotalUs
        bytesSent := payload.bytesSent
        bytesReceived := payload.bytesReceived
        success := payload.success
        error := payload.error }) now)

/-- An operation of the repository. -/
inductive Op where
  | createRun (payload : RunPayload)
  | completeRun (runId : String)
  | recordServer (payload : ServerPayload)
  | recordClient (payload : ClientPayload)
  deriving DecidableEq, Repr

/-- What an operation does in its session. -/
def Op.body (env : Env) : Op → DbM Unit
  | .createRun payload => HybridTls.createRun env payload
  | .completeRun runId => HybridTls.completeRun env runId
  | .recordServer payload => HybridTls.recordServer env payload
  | .recordClient payload => HybridTls.recordClient env payload

/-- The operation that records a post. -/
def Post.op : Post → Op
  | server p => .recordServer p.dump
  | client p => .recordClient p.dump

/-- The post an operation records, if it records one and its payload has all of
the required keys. -/
def Op.post? : Op → Option Post
  | .createRun _ | .completeRun _ => none
  | .recordServer payload => payload.post?.map .server
  | .recordClient payload => payload.post?.map .client

/-- The run post of an operation, if it creates a run and its payload has the
required key. -/
def Op.runPost? : Op → Option RunPost
  | .createRun payload => payload.post?
  | .completeRun _ | .recordServer _ | .recordClient _ => none

theorem Op.post?_eq_some_iff {op : Op} {p : Post} : op.post? = some p ↔ op = p.op := by
  cases op <;> cases p <;>
    simp [Op.post?, Post.op, ServerPayload.post?_eq_some_iff, ClientPayload.post?_eq_some_iff]

theorem Op.runPost?_eq_some_iff {op : Op} {p : RunPost} :
    op.runPost? = some p ↔ op = .createRun p.dump := by
  cases op <;> simp [Op.runPost?, RunPayload.post?_eq_some_iff]

@[simp] theorem Post.post?_op (p : Post) : p.op.post? = some p := Op.post?_eq_some_iff.mpr rfl

@[simp] theorem Post.runPost?_op (p : Post) : p.op.runPost? = none := by
  cases p <;> rfl

@[simp] theorem RunPost.runPost?_createRun (p : RunPost) :
    (Op.createRun p.dump).runPost? = some p := Op.runPost?_eq_some_iff.mpr rfl

/-- The run an operation names. -/
def Op.runId? : Op → Option String
  | .createRun payload => payload.runId
  | .completeRun runId => some runId
  | .recordServer payload => payload.runId
  | .recordClient payload => payload.runId

@[simp] theorem RunPost.runId?_createRun (p : RunPost) :
    (Op.createRun p.dump).runId? = some p.runId := rfl

@[simp] theorem Post.runId?_op (p : Post) : p.op.runId? = some p.sample.runId := by
  cases p <;> rfl

/-- **An operation is storable** when its required keys are there, its integers
fit, and its mode passes the `CHECK`. -/
def Op.Storable : Op → Prop
  | .createRun payload => ∃ p ∈ payload.post?, p.Storable
  | .completeRun _ => True
  | .recordServer payload => ∃ p ∈ payload.post?, (Post.server p).Storable
  | .recordClient payload => ∃ p ∈ payload.post?, (Post.client p).Storable

instance : DecidablePred Op.Storable
  | .createRun payload => inferInstanceAs (Decidable (∃ p ∈ payload.post?, p.Storable))
  | .completeRun _ => inferInstanceAs (Decidable True)
  | .recordServer payload =>
    inferInstanceAs (Decidable (∃ p ∈ payload.post?, (Post.server p).Storable))
  | .recordClient payload =>
    inferInstanceAs (Decidable (∃ p ∈ payload.post?, (Post.client p).Storable))

@[simp] theorem Post.storable_op {p : Post} : p.op.Storable ↔ p.Storable := by
  cases p <;>
    simp [Post.op, Op.Storable, Option.mem_def, ServerPayload.post?_eq_some_iff.mpr rfl,
      ClientPayload.post?_eq_some_iff.mpr rfl]

@[simp] theorem RunPost.storable_createRun {p : RunPost} :
    (Op.createRun p.dump).Storable ↔ p.Storable := by
  simp [Op.Storable, Option.mem_def, RunPayload.post?_eq_some_iff.mpr rfl]

/-- A storable operation is of one of three kinds. -/
theorem Op.Storable.cases {op : Op} (h : op.Storable) :
    (∃ p : RunPost, op = .createRun p.dump ∧ p.Storable) ∨ (∃ runId, op = .completeRun runId) ∨
      ∃ p : Post, op = p.op ∧ p.Storable := by
  cases op with
  | createRun payload =>
    obtain ⟨p, hp, hs⟩ := h
    exact Or.inl ⟨p, by rw [RunPayload.post?_eq_some_iff.mp hp], hs⟩
  | completeRun runId => exact Or.inr (Or.inl ⟨runId, rfl⟩)
  | recordServer payload =>
    obtain ⟨p, hp, hs⟩ := h
    exact Or.inr (Or.inr ⟨.server p, by rw [ServerPayload.post?_eq_some_iff.mp hp]; rfl, hs⟩)
  | recordClient payload =>
    obtain ⟨p, hp, hs⟩ := h
    exact Or.inr (Or.inr ⟨.client p, by rw [ClientPayload.post?_eq_some_iff.mp hp]; rfl, hs⟩)

/-! ### What each operation does when it returns -/

section Returns

variable {env : Env} {σ σ' : Session Store} {u : Unit}

theorem ensureRun_eq_ok {runId : String} :
    ensureRun env runId σ = .ok u σ' ↔ env.fault σ.calls = none ∧
      σ' = { σ with
        image := some ((σ.image.getD σ.file).insertOrIgnoreRun
          (ensureRow runId (env.now σ.readings)))
        readings := σ.readings + 1, calls := σ.calls + 1 } := by
  simp only [ensureRun, isoNow, bind_eq_ok, Session.now_eq_ok, Session.execute_eq_ok,
    Except.ok.injEq]
  constructor
  · rintro ⟨_, _, ⟨rfl, rfl⟩, hf, _, rfl, rfl⟩
    exact ⟨hf, rfl⟩
  · rintro ⟨hf, rfl⟩
    exact ⟨_, _, ⟨rfl, rfl⟩, hf, _, rfl, rfl⟩

theorem frame_ensureRun (runId : String) : Keeps Session.Frame (ensureRun env runId) :=
  Session.frame_bind Session.frame_now fun _ => Session.frame_execute

namespace Post

theorem query_eq_ok {p : Post} {now : Timestamp} {s s' : Store} :
    p.query now s = .ok s' ↔ p.Storable ∧
      (p.sample.sampleId ∈ s.measurements.keys ∨ p.sample.runId ∈ s.runs.keys) ∧
      s'.runs = s.runs ∧
      s'.measurements = s.upserted (p.row now) (p.update now) (p.identity_update now) := by
  unfold query Storable bindIntegers
  split
  next h =>
    change s.upsertMeasurement _ _ _ = _ ↔ _
    simp [Store.upsertMeasurement_eq_ok, h]
  next h =>
    change Except.error _ = _ ↔ _
    exact iff_of_false (fun hc => by cases hc) fun hs => h hs.1.1

/-- The common body of `record_server` and `record_client`, once all the keys of
the payload are known to be there. -/
def record (env : Env) (p : Post) : DbM Unit :=
  transaction env do
    ensureRun env p.sample.runId
    let now ← isoNow env
    Session.execute env (p.query now)

theorem body_op (env : Env) (p : Post) : p.op.body env = p.record env := by
  cases p <;> rfl

/-- **What recording a post commits.** -/
theorem record_ok {p : Post} (h : p.record env σ = .ok u σ') :
    p.Storable ∧ σ'.readings = σ.readings + 2 ∧
      σ'.file.runs = σ.file.runs.insertOrIgnore
        (ensureRow p.sample.runId (env.now σ.readings)) ∧
      σ'.file.measurements = σ.file.upserted (p.row (env.now (σ.readings + 1)))
        (p.update (env.now (σ.readings + 1))) (p.identity_update _) := by
  simp only [record, isoNow, transaction_eq_ok, bind_eq_ok, ensureRun_eq_ok, Session.now_eq_ok,
    Session.execute_eq_ok, query_eq_ok, Option.getD_some] at h
  obtain ⟨-, -, _, _, ⟨_, _, ⟨-, rfl⟩, _, _, ⟨rfl, rfl⟩, -, s', ⟨hp, -, hr, hm⟩, rfl⟩, -, rfl⟩ := h
  exact ⟨hp, rfl, hr, hm⟩

/-- **A storable post is recorded** wherever the database does not fail: its run
is there by the time the reference to it is checked. -/
theorem record_of_storable (hf : ∀ k, env.fault k = none) {p : Post} (hp : p.Storable)
    (σ : Session Store) : ∃ σ', p.record env σ = .ok () σ' := by
  set ensured := σ.file.insertOrIgnoreRun (ensureRow p.sample.runId (env.now σ.readings))
  set now := env.now (σ.readings + 1)
  have hrun : p.sample.runId ∈ ensured.runs.keys := Table.mem_keys_upsert.mpr (Or.inl rfl)
  obtain ⟨s', hs'⟩ : ∃ s', ensured.upsertMeasurement (p.row now) (p.update now)
      (p.identity_update now) = .ok s' :=
    Store.exists_upsertMeasurement (by simpa using hp.2) (by simpa using Or.inr hrun)
  have hq : p.query now ensured = .ok s' :=
    query_eq_ok.mpr ⟨hp, Or.inr hrun, (Store.upsertMeasurement_eq_ok.mp hs').2.2⟩
  refine transaction_returns hf ⟨(), ?_⟩
  simp only [isoNow, bind_eq_ok, ensureRun_eq_ok, Session.now_eq_ok, Session.execute_eq_ok,
    Option.getD_some, hf, true_and]
  exact ⟨_, (), _, rfl, _, _, ⟨rfl, rfl⟩, s', hq, rfl⟩

end Post

/-- `record_server` returns only on a payload that has all of its keys. -/
theorem recordServer_complete {payload : ServerPayload}
    (h : recordServer env payload σ = .ok u σ') : ∃ p : ServerPost, payload = p.dump := by
  obtain ⟨sample, serverHandshakeUs⟩ := payload
  simp only [recordServer, transaction_eq_ok, bind_eq_ok, readSample_eq_ok, required_eq_ok] at h
  obtain ⟨-, -, _, _, ⟨_, _, -, _, _, -, _, _, -, p, _, ⟨rfl, -⟩, us, _, ⟨rfl, -⟩, -⟩, -⟩ := h
  exact ⟨⟨p, us⟩, rfl⟩

/-- `record_client` returns only on a payload that has all of its keys. -/
theorem recordClient_complete {payload : ClientPayload}
    (h : recordClient env payload σ = .ok u σ') : ∃ p : ClientPost, payload = p.dump := by
  obtain ⟨sample, tcp, handshake, ttfb, total, sent, received, success, error⟩ := payload
  simp only [recordClient, transaction_eq_ok, bind_eq_ok, readSample_eq_ok] at h
  obtain ⟨-, -, _, _, ⟨_, _, -, _, _, -, _, _, -, p, _, ⟨rfl, -⟩, -⟩, -⟩ := h
  exact ⟨⟨p, tcp, handshake, ttfb, total, sent, received, success, error⟩, rfl⟩

/-- **What `create_run` commits.** -/
theorem createRun_ok {payload : RunPayload} (h : createRun env payload σ = .ok u σ') :
    ∃ p : RunPost, payload = p.dump ∧ p.Storable ∧ σ'.readings = σ.readings + 1 ∧
      σ'.file = σ.file.upsertRun (p.row (env.now σ.readings)) := by
  obtain ⟨runId, clientName, opensslVersion, iterations, warmup, notes⟩ := payload
  simp only [createRun, isoNow, transaction_eq_ok, bind_eq_ok, required_eq_ok, Session.now_eq_ok,
    Session.execute_eq_ok, RunPost.query_eq_ok] at h
  obtain ⟨-, -, _, _, ⟨runId, _, ⟨rfl, rfl⟩, _, _, ⟨rfl, rfl⟩, -, _, ⟨hp, rfl⟩, rfl⟩, -, rfl⟩ := h
  exact ⟨⟨runId, clientName, opensslVersion, iterations, warmup, notes⟩, rfl, hp, rfl, rfl⟩

/-- A storable run is created wherever the database does not fail. -/
theorem createRun_of_storable (hf : ∀ k, env.fault k = none) {p : RunPost} (hp : p.Storable)
    (σ : Session Store) : ∃ σ', createRun env p.dump σ = .ok () σ' := by
  refine transaction_returns hf ⟨(), ?_⟩
  simp only [isoNow, bind_eq_ok, required_eq_ok, Session.now_eq_ok, Session.execute_eq_ok,
    RunPost.query_eq_ok, hf, true_and]
  exact ⟨_, _, _, ⟨rfl, rfl⟩, _, _, ⟨rfl, rfl⟩, _, ⟨hp, rfl⟩, rfl⟩

/-- **What `complete_run` commits.** -/
theorem completeRun_ok {runId : String} (h : completeRun env runId σ = .ok u σ') :
    σ'.readings = σ.readings + 2 ∧
      σ'.file = (σ.file.insertOrIgnoreRun (ensureRow runId (env.now σ.readings))).completeRun runId
        (env.now (σ.readings + 1)) := by
  simp only [completeRun, isoNow, transaction_eq_ok, bind_eq_ok, ensureRun_eq_ok,
    Session.now_eq_ok, Session.execute_eq_ok, Except.ok.injEq] at h
  obtain ⟨-, -, _, _, ⟨_, _, ⟨-, rfl⟩, _, _, ⟨rfl, rfl⟩, -, _, rfl, rfl⟩, -, rfl⟩ := h
  exact ⟨rfl, rfl⟩

/-- A run is completed wherever the database does not fail. -/
theorem completeRun_returns (hf : ∀ k, env.fault k = none) (runId : String) (σ : Session Store) :
    ∃ σ', completeRun env runId σ = .ok () σ' := by
  refine transaction_returns hf ⟨(), ?_⟩
  simp only [isoNow, bind_eq_ok, ensureRun_eq_ok, Session.now_eq_ok, Session.execute_eq_ok, hf,
    true_and, Except.ok.injEq]
  exact ⟨_, (), _, rfl, _, _, ⟨rfl, rfl⟩, _, rfl, rfl⟩

end Returns

/-! ### Calls and the machine they drive -/

/-- The committed store, and how often the clock has been read. -/
structure World where
  store : Store
  readings : ℕ

/-- A call of an operation, with the external failure of each of its database
calls, if any. -/
structure Call where
  op : Op
  fault : ℕ → Option DbError

/-- A call whose database calls do not fail by themselves. -/
def Op.call (op : Op) : Call := ⟨op, fun _ => none⟩

@[simp] theorem Op.op_call (op : Op) : op.call.op = op := rfl

/-- Execute a call. -/
def exec (clock : ℕ → Timestamp) (w : World) (c : Call) : Except DbError Unit × World :=
  match c.op.body ⟨clock, c.fault⟩ ⟨w.store, none, w.readings, 0⟩ with
  | .ok _ σ => (.ok (), ⟨σ.file, σ.readings⟩)
  | .error e σ => (.error e, ⟨σ.file, σ.readings⟩)

/-- **The repository**: from the store `initialize` creates, one call after the
other. -/
def repository (clock : ℕ → Timestamp) : Transition.Machine World Call where
  init := ⟨.empty, 0⟩
  step w c := (exec clock w c).2

/-- **What a call that returns has done**, `t₁` and `t₂` being its first and its
second reading of the clock. -/
inductive Effect (t₁ t₂ : Timestamp) (s s' : Store) : Op → Prop where
  /-- The run is upserted. -/
  | createRun (p : RunPost) (hp : p.Storable)
      (hruns : s'.runs = s.runs.upsert (p.row t₁) (p.row t₁).update (RunRow.id_update _))
      (hmeas : s'.measurements = s.measurements) : Effect t₁ t₂ s s' (.createRun p.dump)
  /-- The run is there, and completed. -/
  | completeRun (runId : String)
      (hruns : s'.runs = (s.runs.insertOrIgnore (ensureRow runId t₁)).modify runId
        (·.complete t₂) (RunRow.id_complete t₂))
      (hmeas : s'.measurements = s.measurements) : Effect t₁ t₂ s s' (.completeRun runId)
  /-- The run is there, and the measurement is upserted. -/
  | record (p : Post) (hp : p.Storable)
      (hruns : s'.runs = s.runs.insertOrIgnore (ensureRow p.sample.runId t₁))
      (hmeas : s'.measurements = s.upserted (p.row t₂) (p.update t₂) (p.identity_update t₂)) :
      Effect t₁ t₂ s s' p.op

section Exec

variable {clock : ℕ → Timestamp} {w : World} {c : Call}

/-- Every operation keeps the committed store until its commit. -/
theorem op_error {env : Env} {op : Op} {σ σ' : Session Store} {e : DbError}
    (h : op.body env σ = .error e σ') : Session.Frame σ σ' := by
  have hexec {stmt : Store → Except DbError Store} :
      Keeps Session.Frame (Session.execute env stmt) := Session.frame_execute
  cases op with
  | createRun payload =>
    refine transaction_error ?_ h
    exact Session.frame_bind (frame_required _ _) fun _ => Session.frame_bind Session.frame_now
      fun _ => hexec
  | completeRun runId =>
    refine transaction_error ?_ h
    exact Session.frame_bind (frame_ensureRun _) fun _ => Session.frame_bind Session.frame_now
      fun _ => hexec
  | recordServer payload =>
    refine transaction_error ?_ h
    exact Session.frame_bind (frame_required _ _) fun _ => Session.frame_bind (frame_ensureRun _)
      fun _ => Session.frame_bind Session.frame_now fun _ =>
        Session.frame_bind (frame_readSample _) fun _ =>
          Session.frame_bind (frame_required _ _) fun _ => hexec
  | recordClient payload =>
    refine transaction_error ?_ h
    exact Session.frame_bind (frame_required _ _) fun _ => Session.frame_bind (frame_ensureRun _)
      fun _ => Session.frame_bind Session.frame_now fun _ =>
        Session.frame_bind (frame_readSample _) fun _ => hexec

/-- An operation that returns has its effect on the committed store. -/
theorem op_ok {env : Env} {op : Op} {σ σ' : Session Store} {u : Unit}
    (h : op.body env σ = .ok u σ') :
    ∃ k₁ k₂, σ.readings ≤ k₁ ∧ k₁ ≤ k₂ ∧ k₂ < σ'.readings ∧
      Effect (env.now k₁) (env.now k₂) σ.file σ'.file op := by
  have hrecord {p : Post} (h : p.op.body env σ = .ok u σ') :
      ∃ k₁ k₂, σ.readings ≤ k₁ ∧ k₁ ≤ k₂ ∧ k₂ < σ'.readings ∧
        Effect (env.now k₁) (env.now k₂) σ.file σ'.file p.op := by
    rw [p.body_op] at h
    obtain ⟨hp, hk, hruns, hmeas⟩ := p.record_ok h
    exact ⟨_, _, Nat.le_refl _, Nat.le_succ _, by omega, .record p hp hruns hmeas⟩
  cases op with
  | createRun payload =>
    obtain ⟨p, rfl, hp, hk, hfile⟩ := createRun_ok h
    exact ⟨_, _, Nat.le_refl _, Nat.le_refl _, by omega, .createRun p hp (by rw [hfile]; rfl)
      (by rw [hfile]; rfl)⟩
  | completeRun runId =>
    obtain ⟨hk, hfile⟩ := completeRun_ok h
    exact ⟨_, _, Nat.le_refl _, Nat.le_succ _, by omega, .completeRun runId (by rw [hfile]; rfl)
      (by rw [hfile]; rfl)⟩
  | recordServer payload =>
    obtain ⟨p, rfl⟩ := recordServer_complete h
    exact hrecord (p := .server p) h
  | recordClient payload =>
    obtain ⟨p, rfl⟩ := recordClient_complete h
    exact hrecord (p := .client p) h

/-- **What a call can do.** Either it raises and the committed store is what it
was, or it returns and has the effect of its operation, with the readings of the
clock it has made; the clock only advances. -/
theorem exec_cases (clock : ℕ → Timestamp) (w : World) (c : Call) :
    w.readings ≤ (exec clock w c).2.readings ∧
      ((∃ e, (exec clock w c).1 = .error e) ∧ (exec clock w c).2.store = w.store ∨
        (exec clock w c).1 = .ok () ∧
          ∃ k₁ k₂, w.readings ≤ k₁ ∧ k₁ ≤ k₂ ∧ k₂ < (exec clock w c).2.readings ∧
            Effect (clock k₁) (clock k₂) w.store (exec clock w c).2.store c.op) := by
  unfold exec
  cases h : c.op.body ⟨clock, c.fault⟩ ⟨w.store, none, w.readings, 0⟩ with
  | ok u σ =>
    obtain ⟨k₁, k₂, h₁, h₂, h₃, heff⟩ := op_ok h
    exact ⟨by simp only at h₁ ⊢; omega, Or.inr ⟨rfl, k₁, k₂, h₁, h₂, h₃, heff⟩⟩
  | error e σ =>
    have hframe := op_error h
    exact ⟨hframe.readings, Or.inl ⟨⟨e, rfl⟩, hframe.file⟩⟩

/-- **A call that meets no external failure returns exactly when its operation
is storable**, in whatever state it finds the store. -/
theorem exec_eq_ok_iff {op : Op} : (exec clock w op.call).1 = .ok () ↔ op.Storable := by
  constructor
  · intro hok
    rcases (exec_cases clock w op.call).2 with ⟨⟨e, he⟩, -⟩ | ⟨-, k₁, k₂, -, -, -, heff⟩
    · rw [he] at hok
      exact absurd hok (by simp)
    generalize (exec clock w op.call).2.store = s' at heff
    rw [Op.op_call] at heff
    cases heff with
    | createRun p hp => exact RunPost.storable_createRun.mpr hp
    | completeRun runId => trivial
    | record p hp => exact Post.storable_op.mpr hp
  · intro hs
    have hret : ∃ σ', op.body ⟨clock, fun _ => none⟩ ⟨w.store, none, w.readings, 0⟩ =
        .ok () σ' := by
      rcases hs.cases with ⟨p, rfl, hp⟩ | ⟨runId, rfl⟩ | ⟨p, rfl, hp⟩
      · exact createRun_of_storable (fun _ => rfl) hp _
      · exact completeRun_returns (fun _ => rfl) runId _
      · rw [p.body_op]
        exact p.record_of_storable (fun _ => rfl) hp _
    obtain ⟨σ', hσ'⟩ := hret
    simp only [exec, Op.call, hσ']

/-- The effect of a call that returns, given its operation. -/
theorem exec_effect (hok : (exec clock w c).1 = .ok ()) :
    ∃ t₁ t₂, Effect t₁ t₂ w.store (exec clock w c).2.store c.op := by
  rcases (exec_cases clock w c).2 with ⟨⟨e, he⟩, -⟩ | ⟨-, k₁, k₂, -, -, -, heff⟩
  · rw [he] at hok
    exact absurd hok (by simp)
  · exact ⟨_, _, heff⟩

/-- A call that raises leaves the store as it was. -/
theorem exec_store_of_error {e : DbError} (herr : (exec clock w c).1 = .error e) :
    (exec clock w c).2.store = w.store := by
  rcases (exec_cases clock w c).2 with ⟨-, hs⟩ | ⟨hok, -⟩
  · exact hs
  · rw [hok] at herr
    exact absurd herr (by simp)

end Exec

section Lookup

variable {t₁ t₂ : Timestamp} {s s' : Store} {op : Op}

/-- Recording a post upserts its row. -/
theorem Effect.measurements_record {p : Post} (h : Effect t₁ t₂ s s' p.op) :
    s'.measurements = s.upserted (p.row t₂) (p.update t₂) (p.identity_update t₂) := by
  have hpost := p.post?_op
  generalize p.op = op at h hpost
  cases h with
  | createRun q => cases hpost
  | completeRun runId => cases hpost
  | record q hq hruns hmeas =>
    obtain rfl : q = p := by simpa using hpost
    exact hmeas

/-- What recording a post does to the measurements, under each sample. -/
theorem Effect.get?_measurements {p : Post} (h : Effect t₁ t₂ s s' p.op) (k : String) :
    s'.measurements.get? k = if k = p.sample.sampleId then
      some ((s.measurements.get? k).elim (p.row t₂) (p.update t₂)) else s.measurements.get? k := by
  rw [h.measurements_record, Store.upserted, Table.get?_upsert, Post.sampleId_row]

/-- An operation that records nothing leaves the measurements as they are. -/
theorem Effect.measurements_eq (h : Effect t₁ t₂ s s' op) (hop : op.post? = none) :
    s'.measurements = s.measurements := by
  cases h with
  | createRun p hp hruns hmeas => exact hmeas
  | completeRun runId hruns hmeas => exact hmeas
  | record p => simp at hop

end Lookup

end HybridTls

import Mathlib.Data.Int.Notation
import Mathlib.Data.Nat.Notation
import Mathlib.Data.Option.Basic

/-!
# What is posted, and what the dashboard admits

The bodies of the dashboard's write requests, before and after validation.

A *payload* is the dictionary a request or a caller supplies. Every key may be
missing, so each is an `Option` here; a key that is read with `get` and no
default cannot tell a missing value from a null one, but one that is read with a
default can, and the client's name is an option twice over. A *post* is a
payload whose required keys are all there; `dump` turns it back into the
dictionary.

The three request models are the validated counterparts. A value of
`HybridTls.RunCreate`, `HybridTls.ServerMeasurement` or
`HybridTls.ClientMeasurement` exists only if every constraint of its schema
holds, because each field is a subtype that says so; `validate` builds one from
a payload or fails, and `HybridTls.ServerMeasurement.validate_eq_some_iff` and
`HybridTls.ClientMeasurement.validate_eq_some_iff` say that it neither alters a
value nor invents one.
-/

namespace HybridTls

/-! ### Modes -/

/-- The key-exchange modes of the schema. -/
inductive Mode where
  | classical
  | hybrid
  | hybridP256
  deriving DecidableEq, Repr

/-- The text of a mode. -/
def Mode.text : Mode → String
  | .classical => "classical"
  | .hybrid => "hybrid"
  | .hybridP256 => "hybrid_p256"

/-- The mode a text names, if it names one. -/
def Mode.ofText (s : String) : Option Mode :=
  [Mode.classical, .hybrid, .hybridP256].find? fun m => m.text = s

theorem Mode.ofText_eq_some_iff {s : String} {m : Mode} : Mode.ofText s = some m ↔ m.text = s := by
  constructor
  · intro h
    simpa using List.find?_some h
  · rintro rfl
    cases m <;> decide

/-! ### Payloads and posts -/

/-- The keys `POST /api/runs` reads. -/
structure RunPayload where
  runId : Option String
  /-- Missing, null or a text. -/
  clientName : Option (Option String)
  opensslVersion : Option String
  iterations : Option ℤ
  warmup : Option ℤ
  notes : Option String
  deriving DecidableEq, Repr

/-- The keys that both kinds of measurement share. -/
structure SamplePayload where
  sampleId : Option String
  runId : Option String
  mode : Option String
  expectedGroup : Option String
  negotiatedGroup : Option String
  tlsVersion : Option String
  cipher : Option String
  deriving DecidableEq, Repr

/-- The keys `POST /api/measurements/server` reads. -/
structure ServerPayload extends SamplePayload where
  serverHandshakeUs : Option ℤ
  deriving DecidableEq, Repr

/-- The keys `POST /api/measurements/client` reads. -/
structure ClientPayload extends SamplePayload where
  clientTcpUs : Option ℤ
  clientHandshakeUs : Option ℤ
  clientTtfbUs : Option ℤ
  clientTotalUs : Option ℤ
  bytesSent : Option ℤ
  bytesReceived : Option ℤ
  success : Option Bool
  error : Option String
  deriving DecidableEq, Repr

/-- A run payload with its one required key. -/
@[ext]
structure RunPost where
  runId : String
  clientName : Option (Option String)
  opensslVersion : Option String
  iterations : Option ℤ
  warmup : Option ℤ
  notes : Option String
  deriving DecidableEq, Repr

/-- The shared columns of a measurement whose required keys are there. -/
@[ext]
structure SamplePost where
  sampleId : String
  runId : String
  mode : String
  expectedGroup : String
  negotiatedGroup : Option String
  tlsVersion : Option String
  cipher : Option String
  deriving DecidableEq, Repr

/-- A server measurement whose required keys are there. -/
structure ServerPost extends SamplePost where
  serverHandshakeUs : ℤ
  deriving DecidableEq, Repr

/-- A client measurement whose required keys are there. -/
structure ClientPost extends SamplePost where
  clientTcpUs : Option ℤ
  clientHandshakeUs : Option ℤ
  clientTtfbUs : Option ℤ
  clientTotalUs : Option ℤ
  bytesSent : Option ℤ
  bytesReceived : Option ℤ
  success : Option Bool
  error : Option String
  deriving DecidableEq, Repr

/-- The dictionary of a run post. -/
def RunPost.dump (p : RunPost) : RunPayload where
  runId := some p.runId
  clientName := p.clientName
  opensslVersion := p.opensslVersion
  iterations := p.iterations
  warmup := p.warmup
  notes := p.notes

/-- The dictionary of the shared columns. -/
def SamplePost.dump (p : SamplePost) : SamplePayload where
  sampleId := some p.sampleId
  runId := some p.runId
  mode := some p.mode
  expectedGroup := some p.expectedGroup
  negotiatedGroup := p.negotiatedGroup
  tlsVersion := p.tlsVersion
  cipher := p.cipher

/-- The dictionary of a server post. -/
def ServerPost.dump (p : ServerPost) : ServerPayload where
  toSamplePayload := p.toSamplePost.dump
  serverHandshakeUs := some p.serverHandshakeUs

/-- The dictionary of a client post. -/
def ClientPost.dump (p : ClientPost) : ClientPayload where
  toSamplePayload := p.toSamplePost.dump
  clientTcpUs := p.clientTcpUs
  clientHandshakeUs := p.clientHandshakeUs
  clientTtfbUs := p.clientTtfbUs
  clientTotalUs := p.clientTotalUs
  bytesSent := p.bytesSent
  bytesReceived := p.bytesReceived
  success := p.success
  error := p.error

/-- The run post a payload is the dictionary of, if no required key is missing. -/
def RunPayload.post? (p : RunPayload) : Option RunPost :=
  p.runId.map fun runId =>
    { runId
      clientName := p.clientName
      opensslVersion := p.opensslVersion
      iterations := p.iterations
      warmup := p.warmup
      notes := p.notes }

/-- The shared columns of a payload, if no required key is missing. -/
def SamplePayload.post? (p : SamplePayload) : Option SamplePost := do
  return {
    sampleId := ← p.sampleId
    runId := ← p.runId
    mode := ← p.mode
    expectedGroup := ← p.expectedGroup
    negotiatedGroup := p.negotiatedGroup
    tlsVersion := p.tlsVersion
    cipher := p.cipher }

/-- The server post of a payload, if no required key is missing. -/
def ServerPayload.post? (p : ServerPayload) : Option ServerPost := do
  let sample ← p.toSamplePayload.post?
  return { sample with serverHandshakeUs := ← p.serverHandshakeUs }

/-- The client post of a payload, if no required key is missing. -/
def ClientPayload.post? (p : ClientPayload) : Option ClientPost := do
  let sample ← p.toSamplePayload.post?
  return {
    sample with
    clientTcpUs := p.clientTcpUs
    clientHandshakeUs := p.clientHandshakeUs
    clientTtfbUs := p.clientTtfbUs
    clientTotalUs := p.clientTotalUs
    bytesSent := p.bytesSent
    bytesReceived := p.bytesReceived
    success := p.success
    error := p.error }

theorem RunPayload.post?_eq_some_iff {p : RunPayload} {q : RunPost} :
    p.post? = some q ↔ p = q.dump := by
  obtain ⟨runId, clientName, opensslVersion, iterations, warmup, notes⟩ := p
  cases runId <;> simp [post?, RunPost.dump, RunPost.ext_iff, eq_comm]

theorem SamplePayload.post?_eq_some_iff {p : SamplePayload} {q : SamplePost} :
    p.post? = some q ↔ p = q.dump := by
  obtain ⟨sampleId, runId, mode, expectedGroup, negotiatedGroup, tlsVersion, cipher⟩ := p
  cases sampleId <;> cases runId <;> cases mode <;> cases expectedGroup <;>
    simp [post?, SamplePost.dump, SamplePost.ext_iff, eq_comm]

theorem ServerPayload.post?_eq_some_iff {p : ServerPayload} {q : ServerPost} :
    p.post? = some q ↔ p = q.dump := by
  obtain ⟨sample, serverHandshakeUs⟩ := p
  simp only [post?, Option.bind_eq_bind, Option.bind_eq_some_iff,
    SamplePayload.post?_eq_some_iff, ServerPost.dump, ServerPayload.mk.injEq, Option.pure_def,
    Option.some.injEq]
  constructor
  · rintro ⟨_, rfl, _, rfl, rfl⟩
    exact ⟨rfl, rfl⟩
  · rintro ⟨rfl, rfl⟩
    exact ⟨_, rfl, _, rfl, rfl⟩

theorem ClientPayload.post?_eq_some_iff {p : ClientPayload} {q : ClientPost} :
    p.post? = some q ↔ p = q.dump := by
  obtain ⟨sample, tcp, handshake, ttfb, total, sent, received, success, error⟩ := p
  simp only [post?, Option.bind_eq_bind, Option.bind_eq_some_iff,
    SamplePayload.post?_eq_some_iff, ClientPost.dump, ClientPayload.mk.injEq, Option.pure_def,
    Option.some.injEq]
  constructor
  · rintro ⟨_, rfl, rfl⟩
    exact ⟨rfl, rfl, rfl, rfl, rfl, rfl, rfl, rfl, rfl⟩
  · rintro ⟨rfl, rfl, rfl, rfl, rfl, rfl, rfl, rfl, rfl⟩
    exact ⟨_, rfl, rfl⟩

/-! ### The constraints of the schemas -/

/-- The characters of `[A-Za-z0-9_.-]`. -/
def isIdentifierChar (c : Char) : Bool :=
  ('A' ≤ c && c ≤ 'Z') || ('a' ≤ c && c ≤ 'z') || ('0' ≤ c && c ≤ '9') ||
    c = '_' || c = '.' || c = '-'

/-- `pattern=r"^[A-Za-z0-9_.-]+$"`, matched against the whole text. -/
def matchesPattern (s : String) : Bool :=
  !s.toList.isEmpty && s.toList.all isIdentifierChar

/-- `min_length=1, max_length=n` and the identifier pattern. -/
def IsIdentifier (n : ℕ) (s : String) : Prop :=
  1 ≤ s.length ∧ s.length ≤ n ∧ matchesPattern s = true

instance (n : ℕ) : DecidablePred (IsIdentifier n) := fun s =>
  inferInstanceAs (Decidable (1 ≤ s.length ∧ s.length ≤ n ∧ matchesPattern s = true))

/-- `min_length=lo, max_length=hi`. -/
def HasLength (lo hi : ℕ) (s : String) : Prop := lo ≤ s.length ∧ s.length ≤ hi

instance (lo hi : ℕ) : DecidablePred (HasLength lo hi) := fun s =>
  inferInstanceAs (Decidable (lo ≤ s.length ∧ s.length ≤ hi))

/-- `ge=lo`, and `le=b` where the field has an upper bound `b`. -/
def InRange (lo : ℤ) (hi : Option ℤ) (n : ℤ) : Prop := lo ≤ n ∧ ∀ b ∈ hi, n ≤ b

instance (lo : ℤ) (hi : Option ℤ) : DecidablePred (InRange lo hi) := fun n =>
  inferInstanceAs (Decidable (lo ≤ n ∧ ∀ b ∈ hi, n ≤ b))

/-- A duration in microseconds, `ge=0, le=120_000_000`. -/
abbrev Micros := Subtype (InRange 0 (some 120000000))

/-- A byte count, `ge=0`. -/
abbrev ByteCount := Subtype (InRange 0 none)

/-- Check the constraint of a field. -/
def check {α : Type} (p : α → Prop) [DecidablePred p] (a : α) : Option (Subtype p) :=
  if h : p a then some ⟨a, h⟩ else none

/-- Check the constraint of a field that may be null. -/
def checkOptional {α : Type} (p : α → Prop) [DecidablePred p] :
    Option α → Option (Option (Subtype p))
  | none => some none
  | some a => (check p a).map some

section Check

variable {α : Type} {p : α → Prop} [DecidablePred p]

@[simp] theorem check_eq_some_iff {a : α} {x : Subtype p} : check p a = some x ↔ x.1 = a := by
  unfold check
  split
  next h => rw [Option.some.injEq, Subtype.ext_iff, eq_comm]
  next h => exact ⟨fun hc => absurd hc (by simp), fun hx => absurd (hx ▸ x.2) h⟩

@[simp] theorem checkOptional_eq_some_iff {a : Option α} {x : Option (Subtype p)} :
    checkOptional p a = some x ↔ x.map Subtype.val = a := by
  cases a with
  | none => cases x <;> simp [checkOptional]
  | some a => cases x <;> simp [checkOptional]

end Check

/-! ### The request models -/

/-- The model of `POST /api/runs`. -/
structure RunCreate where
  runId : Subtype (IsIdentifier 120)
  clientName : Subtype (HasLength 0 120)
  opensslVersion : Option (Subtype (HasLength 0 240))
  iterations : Option (Subtype (InRange 1 (some 1000000)))
  warmup : Option (Subtype (InRange 0 (some 100000)))
  notes : Option (Subtype (HasLength 0 500))

/-- The fields that both measurement models share. -/
structure SampleFields where
  sampleId : Subtype (IsIdentifier 160)
  runId : Subtype (IsIdentifier 120)
  mode : Mode
  expectedGroup : Subtype (HasLength 1 80)
  negotiatedGroup : Option (Subtype (HasLength 0 80))
  tlsVersion : Option (Subtype (HasLength 0 40))
  cipher : Option (Subtype (HasLength 0 100))

/-- The model of `POST /api/measurements/server`. -/
structure ServerMeasurement extends SampleFields where
  serverHandshakeUs : Micros

/-- The model of `POST /api/measurements/client`. -/
structure ClientMeasurement extends SampleFields where
  clientTcpUs : Option Micros
  clientHandshakeUs : Option Micros
  clientTtfbUs : Option Micros
  clientTotalUs : Option Micros
  bytesSent : Option ByteCount
  bytesReceived : Option ByteCount
  success : Bool
  error : Option (Subtype (HasLength 0 1000))

/-- Validate a run payload; a missing client name takes the field's default, a
null one is not a text. -/
def RunCreate.validate (p : RunPayload) : Option RunCreate := do
  let runId ← check (IsIdentifier 120) (← p.runId)
  let clientName ← check (HasLength 0 120) (← p.clientName.getD (some "openssl-client"))
  let opensslVersion ← checkOptional (HasLength 0 240) p.opensslVersion
  let iterations ← checkOptional (InRange 1 (some 1000000)) p.iterations
  let warmup ← checkOptional (InRange 0 (some 100000)) p.warmup
  let notes ← checkOptional (HasLength 0 500) p.notes
  return { runId, clientName, opensslVersion, iterations, warmup, notes }

/-- Validate the shared fields of a measurement. -/
def SampleFields.validate (p : SamplePayload) : Option SampleFields := do
  let sampleId ← check (IsIdentifier 160) (← p.sampleId)
  let runId ← check (IsIdentifier 120) (← p.runId)
  let mode ← Mode.ofText (← p.mode)
  let expectedGroup ← check (HasLength 1 80) (← p.expectedGroup)
  let negotiatedGroup ← checkOptional (HasLength 0 80) p.negotiatedGroup
  let tlsVersion ← checkOptional (HasLength 0 40) p.tlsVersion
  let cipher ← checkOptional (HasLength 0 100) p.cipher
  return { sampleId, runId, mode, expectedGroup, negotiatedGroup, tlsVersion, cipher }

/-- Validate a server measurement. -/
def ServerMeasurement.validate (p : ServerPayload) : Option ServerMeasurement := do
  let sample ← SampleFields.validate p.toSamplePayload
  let serverHandshakeUs ← check (InRange 0 (some 120000000)) (← p.serverHandshakeUs)
  return { sample with serverHandshakeUs }

/-- Validate a client measurement. -/
def ClientMeasurement.validate (p : ClientPayload) : Option ClientMeasurement := do
  let sample ← SampleFields.validate p.toSamplePayload
  let clientTcpUs ← checkOptional (InRange 0 (some 120000000)) p.clientTcpUs
  let clientHandshakeUs ← checkOptional (InRange 0 (some 120000000)) p.clientHandshakeUs
  let clientTtfbUs ← checkOptional (InRange 0 (some 120000000)) p.clientTtfbUs
  let clientTotalUs ← checkOptional (InRange 0 (some 120000000)) p.clientTotalUs
  let bytesSent ← checkOptional (InRange 0 none) p.bytesSent
  let bytesReceived ← checkOptional (InRange 0 none) p.bytesReceived
  let success ← p.success
  let error ← checkOptional (HasLength 0 1000) p.error
  return { sample with clientTcpUs, clientHandshakeUs, clientTtfbUs, clientTotalUs, bytesSent,
                       bytesReceived, success, error }

/-! ### The posts of the request models -/

/-- `model_dump` of a run. -/
def RunCreate.post (m : RunCreate) : RunPost where
  runId := m.runId
  clientName := some (some m.clientName)
  opensslVersion := m.opensslVersion.map Subtype.val
  iterations := m.iterations.map Subtype.val
  warmup := m.warmup.map Subtype.val
  notes := m.notes.map Subtype.val

/-- `model_dump` of the shared fields. -/
def SampleFields.post (m : SampleFields) : SamplePost where
  sampleId := m.sampleId
  runId := m.runId
  mode := m.mode.text
  expectedGroup := m.expectedGroup
  negotiatedGroup := m.negotiatedGroup.map Subtype.val
  tlsVersion := m.tlsVersion.map Subtype.val
  cipher := m.cipher.map Subtype.val

/-- `model_dump` of a server measurement. -/
def ServerMeasurement.post (m : ServerMeasurement) : ServerPost where
  toSamplePost := m.toSampleFields.post
  serverHandshakeUs := m.serverHandshakeUs

/-- `model_dump` of a client measurement. -/
def ClientMeasurement.post (m : ClientMeasurement) : ClientPost where
  toSamplePost := m.toSampleFields.post
  clientTcpUs := m.clientTcpUs.map Subtype.val
  clientHandshakeUs := m.clientHandshakeUs.map Subtype.val
  clientTtfbUs := m.clientTtfbUs.map Subtype.val
  clientTotalUs := m.clientTotalUs.map Subtype.val
  bytesSent := m.bytesSent.map Subtype.val
  bytesReceived := m.bytesReceived.map Subtype.val
  success := some m.success
  error := m.error.map Subtype.val

/-- **Validation neither alters a value nor invents one**, on the shared
fields. -/
theorem SampleFields.validate_eq_some_iff {p : SamplePayload} {m : SampleFields} :
    SampleFields.validate p = some m ↔ p = m.post.dump := by
  obtain ⟨sampleId, runId, mode, expectedGroup, negotiatedGroup, tlsVersion, cipher⟩ := p
  simp only [validate, Option.bind_eq_bind, Option.bind_eq_some_iff, check_eq_some_iff,
    checkOptional_eq_some_iff, Mode.ofText_eq_some_iff, post, SamplePost.dump,
    SamplePayload.mk.injEq, Option.pure_def, Option.some.injEq]
  constructor
  · rintro ⟨_, rfl, _, rfl, _, rfl, _, rfl, _, rfl, _, rfl, _, rfl, _, rfl, _, rfl, _, rfl, _, rfl,
      rfl⟩
    exact ⟨rfl, rfl, rfl, rfl, rfl, rfl, rfl⟩
  · rintro ⟨rfl, rfl, rfl, rfl, rfl, rfl, rfl⟩
    exact ⟨_, rfl, _, rfl, _, rfl, _, rfl, _, rfl, _, rfl, _, rfl, _, rfl, _, rfl, _, rfl, _, rfl,
      rfl⟩

/-- **Validation neither alters a value nor invents one**, on a server
measurement. -/
theorem ServerMeasurement.validate_eq_some_iff {p : ServerPayload} {m : ServerMeasurement} :
    ServerMeasurement.validate p = some m ↔ p = m.post.dump := by
  obtain ⟨sample, serverHandshakeUs⟩ := p
  simp only [validate, Option.bind_eq_bind, Option.bind_eq_some_iff, check_eq_some_iff,
    SampleFields.validate_eq_some_iff, post, ServerPost.dump, ServerPayload.mk.injEq,
    Option.pure_def, Option.some.injEq]
  constructor
  · rintro ⟨_, rfl, _, rfl, _, rfl, rfl⟩
    exact ⟨rfl, rfl⟩
  · rintro ⟨rfl, rfl⟩
    exact ⟨_, rfl, _, rfl, _, rfl, rfl⟩

/-- **Validation neither alters a value nor invents one**, on a client
measurement. -/
theorem ClientMeasurement.validate_eq_some_iff {p : ClientPayload} {m : ClientMeasurement} :
    ClientMeasurement.validate p = some m ↔ p = m.post.dump := by
  obtain ⟨sample, tcp, handshake, ttfb, total, sent, received, success, error⟩ := p
  simp only [validate, Option.bind_eq_bind, Option.bind_eq_some_iff, checkOptional_eq_some_iff,
    SampleFields.validate_eq_some_iff, post, ClientPost.dump, ClientPayload.mk.injEq,
    Option.pure_def, Option.some.injEq]
  constructor
  · rintro ⟨_, rfl, _, rfl, _, rfl, _, rfl, _, rfl, _, rfl, _, rfl, _, rfl, _, rfl, rfl⟩
    exact ⟨rfl, rfl, rfl, rfl, rfl, rfl, rfl, rfl, rfl⟩
  · rintro ⟨rfl, rfl, rfl, rfl, rfl, rfl, rfl, rfl, rfl⟩
    exact ⟨_, rfl, _, rfl, _, rfl, _, rfl, _, rfl, _, rfl, _, rfl, _, rfl, _, rfl, rfl⟩

/-! ### What passes validation -/

/-- The shared columns of a post satisfy every constraint of the schemas. -/
structure SamplePost.Valid (p : SamplePost) : Prop where
  sampleId : IsIdentifier 160 p.sampleId
  runId : IsIdentifier 120 p.runId
  mode : ∃ m, Mode.text m = p.mode
  expectedGroup : HasLength 1 80 p.expectedGroup
  negotiatedGroup : ∀ g ∈ p.negotiatedGroup, HasLength 0 80 g
  tlsVersion : ∀ v ∈ p.tlsVersion, HasLength 0 40 v
  cipher : ∀ c ∈ p.cipher, HasLength 0 100 c

/-- A server post satisfies every constraint of its schema. -/
structure ServerPost.Valid (p : ServerPost) : Prop extends p.toSamplePost.Valid where
  serverHandshakeUs : InRange 0 (some 120000000) p.serverHandshakeUs

/-- A client post satisfies every constraint of its schema. -/
structure ClientPost.Valid (p : ClientPost) : Prop extends p.toSamplePost.Valid where
  durations : ∀ n ∈ [p.clientTcpUs, p.clientHandshakeUs, p.clientTtfbUs, p.clientTotalUs],
    ∀ k ∈ n, InRange 0 (some 120000000) k
  byteCounts : ∀ n ∈ [p.bytesSent, p.bytesReceived], ∀ k ∈ n, InRange 0 none k
  success : p.success.isSome
  error : ∀ e ∈ p.error, HasLength 0 1000 e

section Valid

variable {α : Type} {p : α → Prop}

/-- A value that may be null has a checked counterpart when it satisfies its
constraint. -/
theorem exists_checked_iff {a : Option α} :
    (∃ x : Option (Subtype p), x.map Subtype.val = a) ↔ ∀ b ∈ a, p b := by
  constructor
  · rintro ⟨x, rfl⟩ b hb
    obtain ⟨y, -, rfl⟩ := Option.map_eq_some_iff.mp hb
    exact y.2
  · intro h
    cases a with
    | none => exact ⟨none, rfl⟩
    | some b => exact ⟨some ⟨b, h b rfl⟩, rfl⟩

theorem forall_checked (x : Option (Subtype p)) : ∀ b ∈ x.map Subtype.val, p b :=
  exists_checked_iff.mp ⟨x, rfl⟩

theorem SampleFields.valid_post (m : SampleFields) : m.post.Valid where
  sampleId := m.sampleId.2
  runId := m.runId.2
  mode := ⟨m.mode, rfl⟩
  expectedGroup := m.expectedGroup.2
  negotiatedGroup := forall_checked m.negotiatedGroup
  tlsVersion := forall_checked m.tlsVersion
  cipher := forall_checked m.cipher

theorem SamplePost.Valid.exists_post {p : SamplePost} (h : p.Valid) :
    ∃ m : SampleFields, m.post = p := by
  obtain ⟨sampleId, runId, mode, expectedGroup, negotiatedGroup, tlsVersion, cipher⟩ := p
  obtain ⟨hsample, hrun, ⟨m, hmode⟩, hexpected, hnegotiated, hversion, hcipher⟩ := h
  obtain ⟨negotiated, rfl⟩ := exists_checked_iff.mpr hnegotiated
  obtain ⟨version, rfl⟩ := exists_checked_iff.mpr hversion
  obtain ⟨cipher, rfl⟩ := exists_checked_iff.mpr hcipher
  exact ⟨⟨⟨sampleId, hsample⟩, ⟨runId, hrun⟩, m, ⟨expectedGroup, hexpected⟩, negotiated, version,
    cipher⟩, by simp [SampleFields.post, hmode]⟩

/-- **What passes the schema of a server measurement**: the posts that satisfy
all of its constraints. -/
theorem ServerMeasurement.isSome_validate_iff {p : ServerPost} :
    (ServerMeasurement.validate p.dump).isSome ↔ p.Valid := by
  simp only [Option.isSome_iff_exists, ServerMeasurement.validate_eq_some_iff]
  constructor
  · rintro ⟨m, hm⟩
    have hpost := ServerPayload.post?_eq_some_iff.mpr hm
    rw [ServerPayload.post?_eq_some_iff.mpr rfl, Option.some.injEq] at hpost
    rw [hpost]
    exact ⟨m.valid_post, m.serverHandshakeUs.2⟩
  · rintro ⟨hsample, hus⟩
    obtain ⟨m, hm⟩ := hsample.exists_post
    refine ⟨⟨m, ⟨_, hus⟩⟩, ?_⟩
    rw [ServerMeasurement.post, hm]

/-- **What passes the schema of a client measurement.** -/
theorem ClientMeasurement.isSome_validate_iff {p : ClientPost} :
    (ClientMeasurement.validate p.dump).isSome ↔ p.Valid := by
  simp only [Option.isSome_iff_exists, ClientMeasurement.validate_eq_some_iff]
  constructor
  · rintro ⟨m, hm⟩
    have hpost := ClientPayload.post?_eq_some_iff.mpr hm
    rw [ClientPayload.post?_eq_some_iff.mpr rfl, Option.some.injEq] at hpost
    rw [hpost]
    refine ⟨m.valid_post, ?_, ?_, rfl, forall_checked m.error⟩
    · simp only [List.forall_mem_cons, List.not_mem_nil, false_implies, implies_true, and_true]
      exact ⟨forall_checked m.clientTcpUs, forall_checked m.clientHandshakeUs,
        forall_checked m.clientTtfbUs, forall_checked m.clientTotalUs⟩
    · simp only [List.forall_mem_cons, List.not_mem_nil, false_implies, implies_true, and_true]
      exact ⟨forall_checked m.bytesSent, forall_checked m.bytesReceived⟩
  · obtain ⟨sample, tcp, handshake, ttfb, total, sent, received, success, error⟩ := p
    rintro ⟨hsample, hdurations, hbytes, hsuccess, herror⟩
    simp only [List.forall_mem_cons, List.not_mem_nil, false_implies, implies_true, and_true]
      at hdurations hbytes
    obtain ⟨htcp, hhandshake, httfb, htotal⟩ := hdurations
    obtain ⟨m, rfl⟩ := hsample.exists_post
    obtain ⟨tcp, rfl⟩ := exists_checked_iff.mpr htcp
    obtain ⟨handshake, rfl⟩ := exists_checked_iff.mpr hhandshake
    obtain ⟨ttfb, rfl⟩ := exists_checked_iff.mpr httfb
    obtain ⟨total, rfl⟩ := exists_checked_iff.mpr htotal
    obtain ⟨sent, rfl⟩ := exists_checked_iff.mpr hbytes.1
    obtain ⟨received, rfl⟩ := exists_checked_iff.mpr hbytes.2
    obtain ⟨success, rfl⟩ := Option.isSome_iff_exists.mp hsuccess
    obtain ⟨error, rfl⟩ := exists_checked_iff.mpr herror
    exact ⟨⟨m, tcp, handshake, ttfb, total, sent, received, success, error⟩, rfl⟩

end Valid

end HybridTls

import HybridTls.Tls.SampleId
import HybridTls.Tls.Server

/-!
# The gates a run's identifier passes

The identifier of a run is checked in three places: by `parse_options` of the
benchmark client, by the dashboard's schemas, and by the TLS server when it reads
the identifier off a request. A fourth check is made of the identifiers of the
samples, which contain it.

All of them mean the same characters, so of an identifier the client has accepted
only the length matters, and each gate has a bound of its own:

| gate | longest run identifier | theorem |
|---|---|---|
| `valid_identifier` in `parse_options` | 160 | `HybridTls.parseOptions_runId` |
| the buffer of the TLS server | 139 | `HybridTls.extractsRunId_iff` |
| the schemas, of the samples' identifiers | 140 | `HybridTls.acceptsSamples_iff` |
| the schemas, of the run's identifier | 120 | `HybridTls.isIdentifier_text_iff` |

They agree on the identifiers of at most 120 bytes
(`HybridTls.gatesAgree_iff`).
-/

namespace HybridTls

open Search

/-! ### What a schema accepts as an identifier -/

/-- `RunCreate` accepts `s` as a `run_id`: it may take the place of the `run_id` of
whatever the schema accepts. -/
def RunCreate.AcceptsRunId (s : String) : Prop :=
  ∀ p : RunPayload, (RunCreate.validate p).isSome →
    (RunCreate.validate { p with runId := some s }).isSome

/-- `ServerMeasurement` accepts `s` as a `run_id`. -/
def ServerMeasurement.AcceptsRunId (s : String) : Prop :=
  ∀ p : ServerPayload, (ServerMeasurement.validate p).isSome →
    (ServerMeasurement.validate { p with runId := some s }).isSome

/-- `ClientMeasurement` accepts `s` as a `run_id`. -/
def ClientMeasurement.AcceptsRunId (s : String) : Prop :=
  ∀ p : ClientPayload, (ClientMeasurement.validate p).isSome →
    (ClientMeasurement.validate { p with runId := some s }).isSome

/-- `ServerMeasurement` accepts `s` as a `sample_id`. -/
def ServerMeasurement.AcceptsSampleId (s : String) : Prop :=
  ∀ p : ServerPayload, (ServerMeasurement.validate p).isSome →
    (ServerMeasurement.validate { p with sampleId := some s }).isSome

/-- `ClientMeasurement` accepts `s` as a `sample_id`. -/
def ClientMeasurement.AcceptsSampleId (s : String) : Prop :=
  ∀ p : ClientPayload, (ClientMeasurement.validate p).isSome →
    (ClientMeasurement.validate { p with sampleId := some s }).isSome

section Schemas

variable {s : String}

/-- Fields of a measurement that every schema accepts. -/
def plainFields : SampleFields where
  sampleId := ⟨"s", by decide⟩
  runId := ⟨"r", by decide⟩
  mode := .classical
  expectedGroup := ⟨"X25519", by decide⟩
  negotiatedGroup := none
  tlsVersion := none
  cipher := none

/-- A server measurement with these fields. -/
def plainServer : ServerMeasurement := { plainFields with serverHandshakeUs := ⟨0, by decide⟩ }

/-- A client measurement with these fields. -/
def plainClient : ClientMeasurement :=
  { plainFields with
    clientTcpUs := none, clientHandshakeUs := none, clientTtfbUs := none, clientTotalUs := none
    bytesSent := none, bytesReceived := none, success := true, error := none }

theorem RunCreate.acceptsRunId_iff : RunCreate.AcceptsRunId s ↔ IsIdentifier 120 s := by
  simp only [AcceptsRunId, validate, Option.bind_eq_bind, Option.isSome_iff_exists,
    Option.bind_eq_some_iff, check_eq_some_iff, Option.some.injEq]
  constructor
  · intro h
    obtain ⟨_, _, rfl, r, rfl, -⟩ :=
      h ⟨some "r", none, none, none, none, none⟩ (by
        refine ⟨_, _, rfl, ⟨"r", by decide⟩, rfl, _, rfl, ⟨"openssl-client", by decide⟩, rfl,
          none, rfl, none, rfl, none, rfl, none, rfl, rfl⟩)
    exact r.2
  · rintro h p ⟨_, _, -, _, -, hrest⟩
    obtain ⟨name, hname, checked, hchecked, version, hversion, hrest⟩ := hrest
    obtain ⟨iterations, hiterations, warmup, hwarmup, notes, hnotes, -⟩ := hrest
    exact ⟨_, s, rfl, ⟨s, h⟩, rfl, name, hname, checked, hchecked, version, hversion, iterations,
      hiterations, warmup, hwarmup, notes, hnotes, rfl⟩

theorem ServerMeasurement.isSome_validate {p : ServerPayload} :
    (ServerMeasurement.validate p).isSome ↔ ∃ m : ServerMeasurement, p = m.post.dump := by
  simp only [Option.isSome_iff_exists, validate_eq_some_iff]

theorem ClientMeasurement.isSome_validate {p : ClientPayload} :
    (ClientMeasurement.validate p).isSome ↔ ∃ m : ClientMeasurement, p = m.post.dump := by
  simp only [Option.isSome_iff_exists, validate_eq_some_iff]

theorem ServerMeasurement.acceptsRunId_iff :
    ServerMeasurement.AcceptsRunId s ↔ IsIdentifier 120 s := by
  simp only [AcceptsRunId, isSome_validate]
  constructor
  · intro h
    obtain ⟨m, hm⟩ := h _ ⟨plainServer, rfl⟩
    obtain rfl : s = m.runId := Option.some.inj (congrArg (·.runId) hm)
    exact m.runId.2
  · rintro h _ ⟨m, rfl⟩
    exact ⟨{ m with runId := ⟨s, h⟩ }, rfl⟩

theorem ClientMeasurement.acceptsRunId_iff :
    ClientMeasurement.AcceptsRunId s ↔ IsIdentifier 120 s := by
  simp only [AcceptsRunId, isSome_validate]
  constructor
  · intro h
    obtain ⟨m, hm⟩ := h _ ⟨plainClient, rfl⟩
    obtain rfl : s = m.runId := Option.some.inj (congrArg (·.runId) hm)
    exact m.runId.2
  · rintro h _ ⟨m, rfl⟩
    exact ⟨{ m with runId := ⟨s, h⟩ }, rfl⟩

theorem ServerMeasurement.acceptsSampleId_iff :
    ServerMeasurement.AcceptsSampleId s ↔ IsIdentifier 160 s := by
  simp only [AcceptsSampleId, isSome_validate]
  constructor
  · intro h
    obtain ⟨m, hm⟩ := h _ ⟨plainServer, rfl⟩
    obtain rfl : s = m.sampleId := Option.some.inj (congrArg (·.sampleId) hm)
    exact m.sampleId.2
  · rintro h _ ⟨m, rfl⟩
    exact ⟨{ m with sampleId := ⟨s, h⟩ }, rfl⟩

theorem ClientMeasurement.acceptsSampleId_iff :
    ClientMeasurement.AcceptsSampleId s ↔ IsIdentifier 160 s := by
  simp only [AcceptsSampleId, isSome_validate]
  constructor
  · intro h
    obtain ⟨m, hm⟩ := h _ ⟨plainClient, rfl⟩
    obtain rfl : s = m.sampleId := Option.some.inj (congrArg (·.sampleId) hm)
    exact m.sampleId.2
  · rintro h _ ⟨m, rfl⟩
    exact ⟨{ m with sampleId := ⟨s, h⟩ }, rfl⟩

end Schemas

/-! ### The gates -/

/-- What `parse_options` accepts as `--run-id` are the identifiers of
`valid_identifier`. -/
theorem parseOptions_runId (generatedRunId r : Bytes) :
    parseOptions generatedRunId [lit "--run-id", r] =
      if validIdentifier r then some { ClientOptions.default generatedRunId with runId := r }
      else none := by
  have hset : (ClientOptions.default generatedRunId).set (lit "--run-id") r =
      some { ClientOptions.default generatedRunId with runId := r } := rfl
  have harguments : parseArguments (.default generatedRunId) [lit "--run-id", r] =
      some { ClientOptions.default generatedRunId with runId := r } := by
    rw [parseArguments, hset]
    rfl
  rw [parseOptions, harguments]
  cases hr : validIdentifier r <;> simp [ClientOptions.default, hr]

/-- The TLS server reads `r` off a request as the run's identifier: wherever `r` is
the value of the first `run_id=`, that is what is in the buffer then. -/
def ExtractsRunId (r : Bytes) : Prop :=
  ∀ request rest output : Bytes,
    strstr (lit "run_id=") request = some (lit "run_id=" ++ (r ++ rest)) →
    (∀ b ∈ rest.head?, isValueByte b = false) →
    extractQueryValue request (lit "run_id") output 140 = (true, r)

/-- The identifiers of the samples of run `r` are not cut off, and every gate they
pass admits them. -/
def AcceptsSamples (r : Bytes) : Prop :=
  ∀ (m : Mode) (sequence : ℕ), 1 ≤ sequence → sequence ≤ 1000000 →
    snprintf 180 (sampleIdText r (lit m.text) sequence) = sampleIdText r (lit m.text) sequence ∧
      validIdentifier (sampleIdText r (lit m.text) sequence) ∧
      ServerMeasurement.AcceptsSampleId (text (sampleIdText r (lit m.text) sequence)) ∧
      ClientMeasurement.AcceptsSampleId (text (sampleIdText r (lit m.text) sequence))

/-- **The gates agree on a run's identifier** that the client has accepted: so do
the schemas and the TLS server, and the samples' identifiers pass. -/
structure GatesAgree (r : Bytes) : Prop where
  runCreate : RunCreate.AcceptsRunId (text r)
  serverMeasurement : ServerMeasurement.AcceptsRunId (text r)
  clientMeasurement : ClientMeasurement.AcceptsRunId (text r)
  extracts : ExtractsRunId r
  samples : AcceptsSamples r

section Gates

variable {r : Bytes}

theorem queryPattern_run_id : queryPattern (lit "run_id") = lit "run_id=" := by decide +kernel

theorem extractsRunId_iff (hr : validIdentifier r) : ExtractsRunId r ↔ r.length ≤ 139 := by
  obtain ⟨hpos, -, hall⟩ := validIdentifier_iff.mp hr
  have hbytes : ∀ b ∈ r, isValueByte b := fun b hb =>
    isValueByte_of_isIdentifierByte b (hall b hb)
  constructor
  · intro h
    -- nothing but the parameter
    have hhit : strstr (lit "run_id=") (lit "run_id=" ++ r) = some (lit "run_id=" ++ r) :=
      strstr_of_isPrefix (List.prefix_append _ _)
    have hvalid := extractQueryValue_valid
      (congrArg Prod.fst (h (lit "run_id=" ++ r) [] [] (by simpa using hhit) (by simp)))
    rw [h (lit "run_id=" ++ r) [] [] (by simpa using hhit) (by simp)] at hvalid
    exact Nat.le_of_lt_succ hvalid.2
  · intro hlen request rest output hfound hrest
    have htake : (r ++ rest).takeWhile isValueByte = r := by
      rw [List.takeWhile_append_of_pos hbytes]
      cases rest with
      | nil => simp
      | cons b rest => simp [hrest b rfl]
    rw [extractQueryValue, queryPattern_run_id, hfound]
    simp only
    rw [List.drop_left, htake, copyValue, if_neg (by omega), hr]

/-- The longest identifier of a sample has 20 bytes more than that of its run. -/
theorem acceptsSamples_iff (hr : validIdentifier r) : AcceptsSamples r ↔ r.length ≤ 140 := by
  obtain ⟨hpos, -, hall⟩ := validIdentifier_iff.mp hr
  constructor
  · intro h
    obtain ⟨-, hvalid, -⟩ := h .hybridP256 1000000 (by decide) (Nat.le_refl _)
    have hlen := (validIdentifier_iff.mp hvalid).2.1
    have hmode : (lit Mode.hybridP256.text).length = 11 := by decide
    have hnumber : (pad6 1000000).length = 7 := by decide +kernel
    simp only [sampleIdText_eq, List.length_append, List.length_cons, hmode, hnumber] at hlen
    omega
  · intro hlen m sequence _ hseq
    have hmode := length_mode_le m
    have hnumber := length_pad6_le hseq
    have htext : 1 ≤ (sampleIdText r (lit m.text) sequence).length ∧
        (sampleIdText r (lit m.text) sequence).length ≤ 160 := by
      simp only [sampleIdText_eq, List.length_append, List.length_cons]
      omega
    have hvalid : validIdentifier (sampleIdText r (lit m.text) sequence) :=
      validIdentifier_iff.mpr ⟨htext.1, htext.2, identifierByte_of_mem_sampleIdText hall⟩
    have hid := validIdentifier_iff_isIdentifier.mp hvalid
    exact ⟨snprintf_of_lt (by omega), hvalid, ServerMeasurement.acceptsSampleId_iff.mpr hid,
      ClientMeasurement.acceptsSampleId_iff.mpr hid⟩

/-- The bound of the schemas is the smallest. -/
theorem gatesAgree_iff_of_valid (hr : validIdentifier r) : GatesAgree r ↔ r.length ≤ 120 := by
  obtain ⟨hpos, -, hall⟩ := validIdentifier_iff.mp hr
  constructor
  · intro h
    exact (isIdentifier_text_iff.mp (RunCreate.acceptsRunId_iff.mp h.runCreate)).2.1
  · intro hlen
    have hid := isIdentifier_text_iff.mpr ⟨hpos, hlen, hall⟩
    exact ⟨RunCreate.acceptsRunId_iff.mpr hid, ServerMeasurement.acceptsRunId_iff.mpr hid,
      ClientMeasurement.acceptsRunId_iff.mpr hid, (extractsRunId_iff hr).mpr (by omega),
      (acceptsSamples_iff hr).mpr (by omega)⟩

end Gates

/-- **When the gates agree**: for the run identifiers of at most 120 bytes, among
those that `parse_options` accepts. -/
theorem gatesAgree_iff {generatedRunId : Bytes} {arguments : List Bytes} {options : ClientOptions}
    (h : parseOptions generatedRunId arguments = some options) :
    GatesAgree options.runId ↔ options.runId.length ≤ 120 :=
  gatesAgree_iff_of_valid (accepted_of_parseOptions h).runId

/-- They agree on the identifier `run-1`. -/
theorem gatesAgree_iff_short : GatesAgree (lit "run-1") := by
  have haccepted : parseOptions [] [lit "--run-id", lit "run-1"] =
      some { ClientOptions.default [] with runId := lit "run-1" } := by
    rw [parseOptions_runId, if_pos (by decide +kernel)]
  exact (gatesAgree_iff haccepted).mpr (by decide)

/-- A run identifier of 121 letters is an option the client accepts and the
dashboard does not. -/
theorem not_gatesAgree_long :
    parseOptions [] [lit "--run-id", List.replicate 121 97] =
        some { ClientOptions.default [] with runId := List.replicate 121 97 } ∧
      ¬ RunCreate.AcceptsRunId (text (List.replicate 121 97)) ∧
      ¬ GatesAgree (List.replicate 121 97) := by
  have hvalid : validIdentifier (List.replicate 121 97) :=
    validIdentifier_iff.mpr ⟨by simp, by simp, fun b hb => by
      rw [List.eq_of_mem_replicate hb]
      decide⟩
  have hrefused : ¬ RunCreate.AcceptsRunId (text (List.replicate 121 97)) := fun h =>
    absurd (RunCreate.acceptsRunId_iff.mp h).2.1 (by rw [length_text, List.length_replicate]; omega)
  exact ⟨by rw [parseOptions_runId, if_pos hvalid], hrefused, fun h => hrefused h.runCreate⟩

end HybridTls

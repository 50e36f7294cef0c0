import HybridTls.Tls.SampleId
import HybridTls.Tls.Server

/-!
# What the C programs emit

Which of the measurements the two C programs post pass the dashboard's schemas.

Everything the programs put into a body is within its bounds, but for two values.

* No timeout is set on a socket, and the schemas admit 120 seconds. The times a
  probe reports lie between its first and its last reading of the clock, so for
  `ClientMeasurement` the one bound that matters is that of the total
  (`HybridTls.clientPost_valid_iff`).
* The server reads the run's identifier off the request into a buffer of 140
  bytes, and the schemas admit 120 characters
  (`HybridTls.serverPost_valid_iff`).
-/

namespace HybridTls

theorem inRange_duration_iff {n : ℕ} : InRange 0 (some 120000000) n ↔ n ≤ 120000000 := by
  simp only [InRange, Option.mem_some_iff, forall_eq']
  omega

theorem hasLength_text {n : ℕ} {b : Bytes} (h : b.length ≤ n) :
    ∀ s ∈ some (text b), HasLength 0 n s := by
  rintro _ ⟨⟩
  exact ⟨Nat.zero_le _, (length_text b).trans_le h⟩

/-- A stretch of time is no longer than one that contains it. -/
theorem toNat_sub_le_toNat_sub {a b c d : UInt64} (hda : d ≤ a) (hab : a ≤ b) (hbc : b ≤ c) :
    (b - a).toNat ≤ (c - d).toNat := by
  have hdc : d ≤ c := UInt64.le_trans hda (UInt64.le_trans hab hbc)
  rw [UInt64.toNat_sub_of_le _ _ hab, UInt64.toNat_sub_of_le _ _ hdc]
  rw [UInt64.le_iff_toNat_le] at hda hbc
  omega

/-! ### The client -/

/-- The microseconds from a probe's first reading of the clock to its last. -/
def ProbeResult.elapsed (r : ProbeResult) (env : ProbeEnv) : ℕ :=
  (env.clock (r.readings - 1) - env.clock 0).toNat

theorem ascii_mode_text (m : Mode) : ∀ c ∈ m.text.toList, c.toNat < 128 := by
  have hall : m.text.toList.all (fun c => c.toNat < 128) := by cases m <;> decide
  simpa using hall

theorem length_group (m : Mode) : 1 ≤ m.group.length ∧ m.group.length ≤ 80 := by
  cases m <;> decide

/-- What the bounds on the durations say about the numbers behind them. -/
theorem durations_iff (v : ClientValues) :
    (∀ n ∈ [v.post.clientTcpUs, v.post.clientHandshakeUs, v.post.clientTtfbUs,
        v.post.clientTotalUs], ∀ k ∈ n, InRange 0 (some 120000000) k) ↔
      v.tcpUs.toNat ≤ 120000000 ∧ v.handshakeUs.toNat ≤ 120000000 ∧
        v.ttfbUs.toNat ≤ 120000000 ∧ v.totalUs.toNat ≤ 120000000 := by
  simp only [ClientValues.post, List.forall_mem_cons, List.not_mem_nil, false_implies,
    implies_true, and_true, Option.mem_some_iff, forall_eq', inRange_duration_iff]

theorem byteCounts_inRange (v : ClientValues) :
    ∀ n ∈ [v.post.bytesSent, v.post.bytesReceived], ∀ k ∈ n, InRange 0 none k := by
  simp [ClientValues.post, InRange]

/-- An error is no longer than its buffer. -/
theorem hasLength_error {v : ClientValues} (hv : v.error.length ≤ 511) :
    ∀ e ∈ v.post.error, HasLength 0 1000 e := by
  simp only [ClientValues.post]
  split
  · simp
  · have hlen := length_unescape_le v.error 1024
    exact hasLength_text (by omega)

section Client

variable {env : ProbeEnv} {options : ClientOptions} {m : Mode} {sequence : ℕ} {l : Locals}

/-- What a client's measurement has in common with a server's is valid. -/
theorem values_sample_valid (hopt : options.Accepted)
    (hrun : IsIdentifier 120 (text options.runId)) (hseq : sequence ≤ 1000000) (hl : l.Fits) :
    (l.values env options (options.endpoint m)
      (sampleIdText options.runId (lit m.text) sequence)).post.toSamplePost.Valid where
  sampleId := isIdentifier_sampleIdText hrun hseq
  runId := hrun
  mode := ⟨m, ((congrArg text (hopt.mode m)).trans (text_lit (ascii_mode_text m))).symm⟩
  expectedGroup := by
    simp only [HasLength, Locals.values, ClientValues.post, length_text, hopt.group m]
    exact length_group m
  negotiatedGroup := hasLength_text hl.groupCopy
  tlsVersion := hasLength_text hl.versionCopy
  cipher := hasLength_text hl.cipherCopy

/-- The times lie between the first reading of the clock and the last. -/
theorem values_times_le (options : ClientOptions) (endpoint : Endpoint) (sampleId : Bytes)
    (hl : l.Timed env) :
    let v := l.values env options endpoint sampleId
    v.tcpUs.toNat ≤ v.totalUs.toNat ∧ v.handshakeUs.toNat ≤ v.totalUs.toNat ∧
      v.ttfbUs.toNat ≤ v.totalUs.toNat := by
  obtain ⟨hconnected, hhandshake, hfirst⟩ := hl.past l.readings (Nat.le_refl _)
  refine ⟨toNat_sub_le_toNat_sub (UInt64.le_refl _) hl.connected hconnected, ?_, ?_⟩
  · simp only [Locals.values]
    split
    next hle => exact toNat_sub_le_toNat_sub hl.connected hle hhandshake
    · exact Nat.zero_le _
  · simp only [Locals.values]
    split
    · exact Nat.zero_le _
    next hne =>
      exact toNat_sub_le_toNat_sub (UInt64.le_refl _) (hl.firstByte.resolve_left hne) hfirst

/-- At the end of a probe, the one bound that matters is that of the total. -/
theorem values_valid_iff (hopt : options.Accepted) (hrun : IsIdentifier 120 (text options.runId))
    (hseq : sequence ≤ 1000000) (hfits : l.Fits) (htimed : l.Timed env) :
    (l.values env options (options.endpoint m)
      (sampleIdText options.runId (lit m.text) sequence)).post.Valid ↔
        (env.clock l.readings - env.clock 0).toNat ≤ 120000000 := by
  have htotal := congrArg (fun t => (env.clock l.readings - t).toNat) htimed.started
  rw [← htotal]
  constructor
  -- the total is one of the durations, and no other is longer
  · intro h
    exact ((durations_iff _).mp h.durations).2.2.2
  · intro h
    obtain ⟨htcp, hhandshake, httfb⟩ := values_times_le options (options.endpoint m)
      (sampleIdText options.runId (lit m.text) sequence) htimed
    exact ⟨values_sample_valid hopt hrun hseq hfits,
      (durations_iff _).mpr ⟨htcp.trans h, hhandshake.trans h, httfb.trans h, h⟩,
      byteCounts_inRange _, rfl, hasLength_error hfits.connectionError⟩

/-- **What a probe posts is valid when the probe was short enough.** -/
theorem clientPost_valid_iff (hopt : options.Accepted)
    (hrun : IsIdentifier 120 (text options.runId))
    (hclock : ∀ i j, i ≤ j → env.clock i ≤ env.clock j)
    (hnames : NamesFit env.groupName env.version env.cipherName) (hseq : sequence ≤ 1000000) :
    ∃ v, (probe env options (options.endpoint m) sequence true).posted = some v ∧
      (v.post.Valid ↔
        (probe env options (options.endpoint m) sequence true).elapsed env ≤ 120000000) := by
  have hid := snprintf_sampleIdText (m := m) (isIdentifier_text_iff.mp hrun).2.1 hseq
  simp only [probe, hopt.mode m, hid, if_true, Option.some.injEq, exists_eq_left']
  exact values_valid_iff hopt hrun hseq (fits_probeLocals hnames) (timed_probeLocals hclock)

end Client

/-! ### The server -/

section Server

variable {arguments : List Bytes} {options : ServerOptions} {env : ServerEnv} {s : Served}

/-- **What the server posts is valid when the handshake was short enough**, and
the identifier of the run too. -/
theorem serverPost_valid_iff (hopt : parseServerOptions arguments = some options)
    (hgroup : 1 ≤ options.group.length ∧ options.group.length ≤ 80)
    (hnames : NamesFit env.groupName env.version env.cipherName)
    (hs : handleConnection env = some s) {p : ServerPost} (hp : s.posted options = some p) :
    p.Valid ↔ (env.clock 1 - env.clock 0).toNat ≤ 120000000 ∧ s.runId.length ≤ 120 := by
  obtain ⟨received, -, rfl⟩ := handleConnection_eq_some hs
  rw [Served.posted] at hp
  -- without a valid sample nothing is posted
  split at hp
  case isFalse => simp at hp
  case isTrue hrecord =>
  obtain rfl := Option.some.inj hp
  obtain ⟨hsample, hrun⟩ := identify_valid hrecord
  rw [validIdentifier_iff_isIdentifier] at hsample
  obtain ⟨hpos, -, hall⟩ := validIdentifier_iff.mp hrun
  constructor
  · intro h
    exact ⟨inRange_duration_iff.mp h.serverHandshakeUs, (isIdentifier_text_iff.mp h.runId).2.1⟩
  · rintro ⟨htime, hlen⟩
    obtain ⟨m, hmode⟩ := validMode_of_parseServerOptions hopt
    refine ⟨⟨hsample, isIdentifier_text_iff.mpr ⟨hpos, hlen, hall⟩, ⟨m, ?_⟩, ?_,
      hasLength_text hnames.length_copyGroup_le, hasLength_text hnames.length_copyVersion_le,
      hasLength_text hnames.length_copyCipher_le⟩, inRange_duration_iff.mpr htime⟩
    · exact ((congrArg text hmode).trans (text_lit (ascii_mode_text m))).symm
    · simpa only [HasLength, Served.post, length_text] using hgroup

end Server

/-! ### Both programs -/

/-- **Which measurements pass the schemas**: of a run whose identifier `RunCreate`
accepts, those of the probes that took at most 120 seconds, whichever way they
ended; and of the connections a server serves, those with a handshake of at most
120 seconds and a run identifier of at most 120 characters. -/
theorem emitted_valid_iff :
    (∀ {generatedRunId : Bytes} {arguments : List Bytes} {options : ClientOptions}
        {env : ProbeEnv} {m : Mode} {sequence : ℕ},
      parseOptions generatedRunId arguments = some options →
      IsIdentifier 120 (text options.runId) →
      (∀ i j, i ≤ j → env.clock i ≤ env.clock j) →
      NamesFit env.groupName env.version env.cipherName →
      1 ≤ sequence → sequence ≤ 1000000 →
      ∃ v, (probe env options (options.endpoint m) sequence true).posted = some v ∧
        ((ClientMeasurement.validate v.post.dump).isSome ↔
          (probe env options (options.endpoint m) sequence true).elapsed env ≤ 120000000)) ∧
    (∀ {arguments : List Bytes} {options : ServerOptions} {env : ServerEnv} {s : Served}
        {p : ServerPost},
      parseServerOptions arguments = some options →
      1 ≤ options.group.length ∧ options.group.length ≤ 80 →
      NamesFit env.groupName env.version env.cipherName →
      handleConnection env = some s → s.posted options = some p →
      ((ServerMeasurement.validate p.dump).isSome ↔
        (env.clock 1 - env.clock 0).toNat ≤ 120000000 ∧ s.runId.length ≤ 120)) := by
  constructor
  · intro _ _ options env m sequence hopt hrun hclock hnames _ hseq
    simp only [ClientMeasurement.isSome_validate_iff]
    exact clientPost_valid_iff (accepted_of_parseOptions hopt) hrun hclock hnames hseq
  · intro _ options env s p hopt hgroup hnames hs hp
    rw [ServerMeasurement.isSome_validate_iff]
    exact serverPost_valid_iff hopt hgroup hnames hs hp

/-- Nothing answers, and `connect` gives up after `t` microseconds. -/
def unanswered (t : UInt64) : ProbeEnv where
  clock n := if n = 0 then 0 else t
  tcpConnect := .error (lit "connect: Connection timed out")
  sslNew := true
  sslConnect := .error none
  groupName := none
  version := []
  cipherName := []
  sslWrite := .error none
  pieces := []
  numberRead := none
  numberWritten := none

theorem unanswered_mono (t : UInt64) :
    ∀ i j, i ≤ j → (unanswered t).clock i ≤ (unanswered t).clock j := by
  intro i j hij
  simp only [unanswered]
  split
  · exact UInt64.zero_le
  · rw [if_neg (by omega)]
    exact UInt64.le_refl t

theorem unanswered_namesFit (t : UInt64) :
    NamesFit (unanswered t).groupName (unanswered t).version (unanswered t).cipherName :=
  ⟨by simp [unanswered], by simp [unanswered], by simp [unanswered]⟩

/-- A request is served after a handshake of `t` microseconds. -/
def serves (t : UInt64) (runId : Bytes) : ServerEnv :=
  .receiving t (requestText (lit "s-1") runId (lit "classical-tls") true)

theorem serves_namesFit (t : UInt64) (runId : Bytes) :
    NamesFit (serves t runId).groupName (serves t runId).version (serves t runId).cipherName := by
  have hversion : (lit "TLSv1.3").length ≤ 40 := by decide
  have hcipher : (lit "TLS_AES_256_GCM_SHA384").length ≤ 100 := by decide
  refine ⟨?_, hversion, hcipher⟩
  rintro _ ⟨⟩
  decide

/-- Short ones pass. -/
theorem emitted_valid_iff_short :
    (∃ v, (probe (unanswered 1500) (.default (lit "run-1"))
        ((ClientOptions.default (lit "run-1")).endpoint .hybrid) 1 true).posted = some v ∧
      (ClientMeasurement.validate v.post.dump).isSome) ∧
    ∃ s p, handleConnection (serves 1500 (lit "run-1")) = some s ∧
      s.posted .default = some p ∧ (ServerMeasurement.validate p.dump).isSome := by
  have hrun : IsIdentifier 120 (text (lit "run-1")) := by decide +kernel
  have hclient : parseOptions (lit "run-1") [] = some (.default (lit "run-1")) := by
    decide +kernel
  have hserver : parseServerOptions [] = some .default := by decide +kernel
  constructor
  · obtain ⟨v, hv, hvalid⟩ := emitted_valid_iff.1 (m := .hybrid) hclient hrun
      (unanswered_mono 1500) (unanswered_namesFit 1500) (Nat.le_refl 1) (by decide)
    exact ⟨v, hv, hvalid.mpr (by decide +kernel)⟩
  · refine ⟨_, _, rfl, rfl, (emitted_valid_iff.2 hserver (by decide)
      (serves_namesFit 1500 (lit "run-1")) rfl rfl).mpr ⟨?_, ?_⟩⟩ <;> decide +kernel

/-- A connection attempt that times out after 127 seconds is a measurement the
dashboard rejects; so are a handshake of 127 seconds, and a run identifier of 130
characters. -/
theorem emitted_not_valid :
    (parseOptions (lit "run-1") [] = some (.default (lit "run-1")) ∧
      IsIdentifier 120 (text (lit "run-1")) ∧
      (∀ i j, i ≤ j → (unanswered 127000000).clock i ≤ (unanswered 127000000).clock j) ∧
      NamesFit (unanswered 127000000).groupName (unanswered 127000000).version
        (unanswered 127000000).cipherName ∧
      ((probe (unanswered 127000000) (.default (lit "run-1"))
          ((ClientOptions.default (lit "run-1")).endpoint .hybrid) 1 true).posted.map
        fun v => (ClientMeasurement.validate v.post.dump).isSome) = some false) ∧
    (parseServerOptions [] = some .default ∧
      (((handleConnection (serves 127000000 (lit "run-1"))).bind (·.posted .default)).map
        fun p => (ServerMeasurement.validate p.dump).isSome) = some false ∧
      (((handleConnection (serves 1500 (List.replicate 130 97))).bind (·.posted .default)).map
        fun p => (ServerMeasurement.validate p.dump).isSome) = some false) := by
  refine ⟨⟨?_, ?_, unanswered_mono _, unanswered_namesFit _, ?_⟩, ?_, ?_, ?_⟩
  all_goals decide +kernel

end HybridTls

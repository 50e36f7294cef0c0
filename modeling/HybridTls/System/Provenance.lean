import HybridTls.System.Lab

/-!
# Where the measurements come from

What holds in every state of the lab, whatever the order of its steps: every post that the
dashboard has accepted is of a probe that has been made, and what it says was measured on
that probe's connection (`HybridTls.Probe.Measured`); every client has come as far along its
schedule as its log says (`HybridTls.Setup.StageFits`); and a run is completed only behind
the whole of it.

All of this is one invariant (`HybridTls.Lab.Inv`). A step of the lab does at most three
things – a client goes on, a probe is added to the log, the dashboard processes a message –
and there is one lemma for each of them, `HybridTls.Lab.Inv.goto`,
`HybridTls.Lab.Inv.probed` and `HybridTls.Lab.Inv.post`.
-/

namespace HybridTls

open Json Keyed Transition

/-! ### The schedule -/

section Schedule

variable {options : ClientOptions} {t : Turn} {n : ℕ}

theorem mem_warmUpTurns (h : t ∈ warmUpTurns n) :
    t.record = false ∧ 1 ≤ t.sequence ∧ t.sequence ≤ n := by
  simp only [warmUpTurns, List.mem_flatMap, List.mem_map, List.mem_range'_1] at h
  obtain ⟨index, hindex, m, -, rfl⟩ := h
  exact ⟨rfl, hindex.1, by simp only; omega⟩

/-- Every number fits in six digits, or nearly so. -/
theorem sequence_le_of_mem_schedule (hopt : options.Accepted) (h : t ∈ options.schedule) :
    t.sequence ≤ 1000000 := by
  have hiterations := hopt.iterations
  have hwarmup := hopt.warmup
  rcases List.mem_append.mp h with h | h
  · have := (mem_warmUpTurns h).2.2
    omega
  · have := (mem_measuredTurns h).2.2
    omega

/-- Blocks that know their own number have no element in common. -/
theorem nodup_flatMap_key {α β : Type*} {l : List α} {f : α → List β} (key : β → α)
    (hl : l.Nodup) (hf : ∀ k ∈ l, (f k).Nodup) (hkey : ∀ k, ∀ b ∈ f k, key b = k) :
    (l.flatMap f).Nodup := by
  refine List.nodup_flatMap.mpr ⟨hf, hl.imp fun {a b} hab => ?_⟩
  intro x hxa hxb
  exact hab ((hkey a x hxa).symm.trans (hkey b x hxb))

theorem nodup_warmUpTurns (n : ℕ) : (warmUpTurns n).Nodup := by
  refine nodup_flatMap_key Turn.sequence List.nodup_range' (fun k _ => ?_) fun k t ht => ?_
  · exact List.Nodup.map (fun m m' h => congrArg Turn.mode h) (by decide)
  · obtain ⟨m, -, rfl⟩ := List.mem_map.mp ht
    rfl

theorem nodup_measuredTurns (n : ℕ) : (measuredTurns n).Nodup := by
  refine nodup_flatMap_key Turn.sequence List.nodup_range' (fun k _ => ?_) fun k t ht => ?_
  · exact List.Nodup.map (fun m m' h => congrArg Turn.mode h)
      (List.nodup_rotate.mpr (by decide))
  · obtain ⟨m, -, rfl⟩ := List.mem_map.mp ht
    rfl

/-- **No turn is on the schedule twice.** -/
theorem nodup_schedule (options : ClientOptions) : options.schedule.Nodup := by
  refine List.nodup_append.mpr ⟨nodup_warmUpTurns _, nodup_measuredTurns _, ?_⟩
  rintro t ht _ ht' rfl
  have hrecord := (mem_warmUpTurns ht).1
  rw [(mem_measuredTurns ht').1] at hrecord
  exact Bool.noConfusion hrecord

end Schedule

/-! ### What has been measured -/

section Measured

variable {ι : Type} {L : Setup ι}

/-- The identifier of a probe's sample. -/
def Probe.sampleId (L : Setup ι) (x : Probe ι) : Bytes :=
  sampleIdText (L.clients x.client).runId (lit x.mode.text) x.sequence

/-- The columns of a post that say which probe it is of. -/
structure Probe.Identifies (L : Setup ι) (x : Probe ι) (p : SamplePost) : Prop where
  sampleId : p.sampleId = text (x.sampleId L)
  runId : p.runId = text (L.clients x.client).runId
  mode : p.mode = x.mode.text
  expectedGroup : p.expectedGroup = text x.mode.group

/-- **What has been measured of a probe**: by the client and by the server, if it is to be
recorded, and by neither of them otherwise. -/
structure Probe.Measured (L : Setup ι) (x : Probe ι) : Prop where
  posted : ∀ v ∈ x.result.posted, x.record = true ∧ v.Fits ∧ x.Identifies L v.post.toSamplePost ∧
    (v.success ↔ x.result.code = 0)
  recorded : x.record = true → x.result.posted.isSome
  served : ∀ y ∈ x.toPost, x.record = true ∧ y.Fits (L.servers x.mode) ∧
    x.Identifies L (y.post (L.servers x.mode)).toSamplePost

variable {i : ι} {t : Turn} {env : ProbeEnv} {server : Option ServerEnv}

theorem Setup.Sound.accepted (hL : L.Sound) (i : ι) : (L.clients i).Accepted := by
  obtain ⟨generatedRunId, arguments, hopt⟩ := hL.options i
  exact accepted_of_parseOptions hopt

theorem text_mode (m : Mode) : text (lit m.text) = m.text := by
  cases m <;> decide +kernel

/-- **The server identifies the sample as the client does**: what it extracts from the
request is what the client has put in. -/
theorem identify_request (hL : L.Sound) (ht : t ∈ (L.clients i).schedule) :
    identify (cString ((snprintf 640 (requestText (sampleIdText (L.clients i).runId
        (lit t.mode.text) t.sequence) (L.clients i).runId ((L.clients i).endpoint t.mode).host
        t.record)).take 2047)) =
      if t.record then ⟨true, sampleIdText (L.clients i).runId (lit t.mode.text) t.sequence,
        (L.clients i).runId⟩ else ⟨false, [], []⟩ := by
  have hopt := hL.accepted i
  have hseq := sequence_le_of_mem_schedule hopt ht
  have hhost := hL.hosts i t.mode
  obtain ⟨-, hlen, hbytes⟩ := isIdentifier_text_iff.mp (hL.runId i)
  have hsampleLen := length_sampleIdText_le (m := t.mode) hlen hseq
  have hsampleId := validIdentifier_iff_isIdentifier.mpr
    (isIdentifier_sampleIdText (m := t.mode) (hL.runId i) hseq)
  have hhostBytes : ∀ b ∈ ((L.clients i).endpoint t.mode).host, isIdentifierByte b :=
    fun b hb => (hhost.2 b hb).1
  have hsize : (requestText (sampleIdText (L.clients i).runId (lit t.mode.text) t.sequence)
      (L.clients i).runId ((L.clients i).endpoint t.mode).host t.record).length < 640 :=
    length_requestText_lt hsampleLen hlen hhost.1
  rw [snprintf_of_lt hsize, List.take_of_length_le (by omega),
    cString_requestText (validIdentifier_iff.mp hsampleId).2.2 hbytes hhostBytes,
    identify_requestText hsampleId hopt.runId (by omega) (by omega) hhostBytes]

/-- **A probe of the lab measures itself.** -/
theorem measured_probeOf (hL : L.Sound) (ht : t ∈ (L.clients i).schedule)
    (hplain : (Action.probe i env server).Plain) : (L.probeOf i t env server).Measured L := by
  obtain ⟨hclient, hserver⟩ := hplain
  have hopt := hL.accepted i
  have hseq := sequence_le_of_mem_schedule hopt ht
  have hlen := (isIdentifier_text_iff.mp (hL.runId i)).2.1
  constructor
  · intro v hv
    have hrecord : t.record = true := by
      by_contra hnot
      simp [Setup.probeOf, probe, hnot] at hv
    have hposted : (probe env (L.clients i) ((L.clients i).endpoint t.mode) t.sequence
        true).posted = some v := by
      rw [← hrecord]
      exact hv
    refine ⟨hrecord, fits_probe hopt (hL.runId i) hseq hclient.groupName hclient.version
      hclient.cipherName hposted, ?_⟩
    simp only [Setup.probeOf, probe, hrecord, hopt.mode t.mode, snprintf_sampleIdText hlen hseq,
      if_true, Option.mem_def, Option.some.injEq] at hv ⊢
    subst hv
    refine ⟨⟨rfl, rfl, ?_, ?_⟩, ?_⟩
    · simp only [ClientValues.post, Locals.values, hopt.mode t.mode, text_mode]
    · simp only [ClientValues.post, Locals.values, hopt.group t.mode]
    · simp [Locals.values]
  · intro hrecord
    have hrecord : t.record = true := hrecord
    simp [Setup.probeOf, probe, hrecord]
  · intro y hy
    obtain ⟨hserved, hrecorded⟩ := Option.filter_eq_some_iff.mp hy
    obtain ⟨e, he, hconnection⟩ := Option.bind_eq_some_iff.mp hserved
    obtain ⟨request, hrequest, hy'⟩ := handleConnection_eq_some hconnection
    -- the request that has been read is the one that the client has formatted
    simp only [probe, hopt.mode t.mode, snprintf_sampleIdText hlen hseq] at hrequest
    obtain rfl := eq_of_request_probeLocals hrequest
    rw [identify_request hL ht] at hy'
    have hrecord : t.record = true := by
      by_contra hnot
      simp only [Bool.not_eq_true] at hnot
      simp [hy', hnot] at hrecorded
    rw [hrecord, if_pos rfl] at hy'
    obtain ⟨arguments, harguments⟩ := hL.serverOptions t.mode
    have hnames := hserver e he
    have hgroup := isPlain_group t.mode
    have hlength : t.mode.group.length ≤ 80 := by cases t.mode <;> decide
    refine ⟨hrecord, ?_, ?_⟩
    · refine fits_handleConnection harguments hconnection hrecorded ?_ ?_ hnames.groupName
        hnames.version hnames.cipherName
      · rw [hL.serverGroup]
        exact hlength
      · rw [hL.serverGroup]
        exact hgroup.2
    · subst hy'
      refine ⟨rfl, rfl, ?_, ?_⟩
      · simp only [Served.post, Setup.probeOf, hL.serverMode, text_mode]
      · simp only [Served.post, Setup.probeOf, hL.serverGroup]

end Measured

/-! ### The clients -/

section Clients

variable {ι : Type} {L : Setup ι} {i : ι} {env env' : ℕ → ProbeEnv} {options : ClientOptions}

/-- One turn of the loops. -/
theorem step_prober (env : ℕ → ProbeEnv) (options : ClientOptions) (p : Progress) (t : Turn) :
    (prober env options).step p t =
      { issued := p.issued ++ [issue env options p t]
        failures := if t.record ∧ (issue env options p t).result.code ≠ 0 then p.failures + 1
          else p.failures } := rfl

/-- What the loops do depends on nothing behind what they have met. -/
theorem runFrom_congr {ts : List Turn} {p : Progress}
    (h : ∀ k < p.issued.length + ts.length, env k = env' k) :
    (prober env options).runFrom p ts = (prober env' options).runFrom p ts := by
  induction ts generalizing p with
  | nil => rw [Machine.runFrom_nil, Machine.runFrom_nil]
  | cons t ts ih =>
    have hfirst : env p.issued.length = env' p.issued.length := h _ (by simp)
    have hissue : issue env options p t = issue env' options p t := by
      rw [issue, issue, hfirst]
    have hstep : (prober env options).step p t = (prober env' options).step p t := by
      rw [step_prober, step_prober, hissue]
    rw [Machine.runFrom_cons, Machine.runFrom_cons, hstep]
    refine ih fun k hk => h k ?_
    rw [step_prober, List.length_append, List.length_singleton] at hk
    rw [List.length_cons]
    omega

/-- **A log is one of the loops**, as far as they have got, with the failures they have
counted. -/
def Setup.Probes (L : Setup ι) (i : ι) (log : List (Probe ι)) (failures : ℕ) : Prop :=
  ∃ env, (prober env (L.clients i)).run (log.map fun x => x.toTurn) =
    ⟨log.map fun x => x.toIssued, failures⟩

theorem probes_nil : L.Probes i [] 0 := ⟨fun _ => answered, rfl⟩

/-- The loops go on by a probe. -/
theorem Setup.Probes.probeOf {log : List (Probe ι)} {failures : ℕ} (h : L.Probes i log failures)
    (t : Turn) (e : ProbeEnv) (server : Option ServerEnv) :
    L.Probes i (log ++ [L.probeOf i t e server])
      (if t.record ∧ (L.probeOf i t e server).result.code ≠ 0 then failures + 1 else failures) := by
  obtain ⟨env, hrun⟩ := h
  -- the next environment is the one the probe meets
  let env' : ℕ → ProbeEnv := fun k => if k < log.length then env k else e
  have hsame : (prober env' (L.clients i)).run (log.map fun x => x.toTurn) =
      ⟨log.map fun x => x.toIssued, failures⟩ := by
    rw [← hrun]
    refine runFrom_congr fun k hk => if_pos ?_
    simpa [prober] using hk
  have hissue : issue env' (L.clients i) ⟨log.map fun x => x.toIssued, failures⟩ t =
      (L.probeOf i t e server).toIssued := by
    have hnext : env' log.length = e := if_neg (Nat.lt_irrefl _)
    rw [issue, List.length_map, hnext]
    rfl
  refine ⟨env', ?_⟩
  rw [List.map_append, Machine.run_append, hsame, List.map_append]
  change (prober env' (L.clients i)).step _ t = _
  rw [step_prober, hissue]
  rfl

/-- **How far a client has come**, by its log. -/
def Setup.StageFits (L : Setup ι) (i : ι) (log : List (Probe ι)) (failures : ℕ) :
    ClientStage ι → Prop
  | .starting => log = []
  | .probing rest => (log.map fun x => x.toTurn) ++ rest = (L.clients i).schedule
  | .reporting x rest => (log.map fun x => x.toTurn) ++ rest = (L.clients i).schedule ∧ x ∈ log
  -- either the run has not been created, or all of it has been made
  | .finished code => log = [] ∧ code = 1 ∧ failures = 0 ∨
      (log.map fun x => x.toTurn) = (L.clients i).schedule ∧ code = exitCode failures

/-- What has been made is the beginning of the schedule. -/
theorem Setup.StageFits.isPrefix {log : List (Probe ι)} {failures : ℕ} {stage : ClientStage ι}
    (h : L.StageFits i log failures stage) :
    (log.map fun x => x.toTurn) <+: (L.clients i).schedule := by
  cases stage with
  | starting =>
    have hlog : log = [] := h
    rw [hlog]
    exact List.nil_prefix
  | probing rest => exact ⟨rest, h⟩
  | reporting x rest => exact ⟨rest, h.1⟩
  | finished code =>
    rcases h with ⟨rfl, -⟩ | ⟨hall, -⟩
    · exact List.nil_prefix
    · rw [hall]

end Clients

/-! ### The runs -/

section Runs

variable {t₁ t₂ : Timestamp} {s s' : Store} {op : Op}

/-- What holds of the rows of runs and is kept by everything that is done to them. -/
theorem Effect.forall_runRows {P : RunRow → Prop} (heff : Effect t₁ t₂ s s' op)
    (hs : ∀ r ∈ s.runs.rows, P r)
    (hnew : ∀ id ∈ op.runId?, ∀ row : RunRow, row.id = id → row.completedAt = none → P row)
    (hupdate : ∀ row r : RunRow, P r → P (row.update r))
    (hcomplete : ∀ (t : Timestamp) (r : RunRow), op = .completeRun r.id → P r →
      P (r.complete t)) : ∀ r ∈ s'.runs.rows, P r := by
  have hensure : ∀ t, ∀ id ∈ op.runId?,
      ∀ r ∈ (s.runs.insertOrIgnore (ensureRow id t)).rows, P r := fun t id hid =>
    Table.forall_insertOrIgnore hs fun _ => hnew id hid _ rfl rfl
  cases heff with
  | createRun p hp hruns hmeas =>
    rw [hruns]
    exact Table.forall_upsert hs (fun _ => hnew _ rfl _ rfl rfl) fun r hr _ => hupdate _ r (hs r hr)
  | completeRun runId hruns hmeas =>
    rw [hruns]
    refine Table.forall_modify (hensure t₁ runId rfl) fun r hr hid => ?_
    exact hcomplete t₂ r (by rw [hid]) (hensure t₁ runId rfl r hr)
  | record p hp hruns hmeas =>
    rw [hruns]
    exact hensure t₁ _ p.runId?_op

/-- A message leaves the store alone, or has the effect of its operation. -/
theorem process_cases (clock : ℕ → Timestamp) (w : World) (m : Message)
    (fault : ℕ → Option DbError) :
    (process clock w m fault).store = w.store ∨ ∃ op ∈ m.op?, ∃ t₁ t₂,
      Effect t₁ t₂ w.store (process clock w m fault).store op := by
  rw [process_eq]
  cases m.op? with
  | none => exact Or.inl rfl
  | some op =>
    rw [Option.elim_some]
    rcases (exec_cases clock w ⟨op, fault⟩).2 with ⟨-, hstore⟩ | ⟨-, k₁, k₂, -, -, -, heff⟩
    · exact Or.inl hstore
    · exact Or.inr ⟨op, rfl, _, _, heff⟩

end Runs

/-! ### The invariant -/

section Inv

variable {ι : Type} [DecidableEq ι] {L : Setup ι} {s : Lab ι} {i : ι}

/-- What a client has logged. -/
def Lab.logOf (s : Lab ι) (i : ι) : List (Probe ι) := s.log.filter fun x => x.client = i

/-- A client has made all of its probes, and completed its run. -/
def Lab.Done (L : Setup ι) (s : Lab ι) (i : ι) : Prop :=
  (∃ code, (s.clients i).stage = .finished code) ∧
    ((s.logOf i).map fun x => x.toTurn) = (L.clients i).schedule

/-- What the dashboard may be posted of a probe. -/
inductive Probe.Posts (L : Setup ι) (x : Probe ι) : Post → Prop where
  | client (v : ClientValues) (hv : v ∈ x.result.posted) : x.Posts L (.client v.post)
  | server (y : Served) (hy : y ∈ x.toPost) : x.Posts L (.server (y.post (L.servers x.mode)))

/-- **The invariant of the lab.** -/
structure Lab.Inv (L : Setup ι) (s : Lab ι) : Prop where
  tracks : Tracks s.history s.world.store.measurements
  probes : ∀ i, L.Probes i (s.logOf i) (s.clients i).failures
  stages : ∀ i, L.StageFits i (s.logOf i) (s.clients i).failures (s.clients i).stage
  measured : ∀ x ∈ s.log, x.Measured L
  history : ∀ p ∈ s.history, ∃ x ∈ s.log, x.Posts L p
  pending : ∀ q ∈ s.pending, ∃ x ∈ s.log, q.1 = x.mode ∧ q.2 ∈ x.toPost
  runs : ∀ r ∈ s.world.store.runs.rows, ∃ i, r.id = text (L.clients i).runId ∧
    (r.completedAt ≠ none → s.Done L i)

/-- At the start there is nothing. -/
theorem inv_init : (lab L).init.Inv L where
  tracks := tracks_empty
  probes _ := probes_nil
  stages _ := rfl
  measured x hx := by simp [lab] at hx
  history p hp := by simp [lab] at hp
  pending q hq := by simp [lab] at hq
  runs r hr := by simp [lab, Store.empty] at hr

@[simp] theorem logOf_goto (stage : ClientStage ι) (j : ι) :
    (s.goto i stage).logOf j = s.logOf j := rfl

@[simp] theorem clients_goto (stage : ClientStage ι) :
    (s.goto i stage).clients i = { s.clients i with stage } := by
  simp [Lab.goto]

theorem clients_goto_of_ne {j : ι} (stage : ClientStage ι) (hj : j ≠ i) :
    (s.goto i stage).clients j = s.clients j := by
  simp [Lab.goto, hj]

/-- **A client that is not finished goes on** to where its log says. -/
theorem Lab.Inv.goto (hs : s.Inv L) (stage : ClientStage ι)
    (hnot : ∀ code, (s.clients i).stage ≠ .finished code)
    (hstage : L.StageFits i (s.logOf i) (s.clients i).failures stage) : (s.goto i stage).Inv L where
  tracks := hs.tracks
  probes j := by
    by_cases hj : j = i
    · subst hj
      rw [logOf_goto, clients_goto]
      exact hs.probes j
    · rw [logOf_goto, clients_goto_of_ne stage hj]
      exact hs.probes j
  stages j := by
    by_cases hj : j = i
    · subst hj
      rw [logOf_goto, clients_goto]
      exact hstage
    · rw [logOf_goto, clients_goto_of_ne stage hj]
      exact hs.stages j
  measured := hs.measured
  history := hs.history
  pending := hs.pending
  runs r hr := by
    obtain ⟨j, hid, hdone⟩ := hs.runs r hr
    refine ⟨j, hid, fun hcompleted => ?_⟩
    obtain ⟨⟨code, hcode⟩, hlog⟩ := hdone hcompleted
    have hj : j ≠ i := fun h => hnot code (h ▸ hcode)
    exact ⟨⟨code, by rw [clients_goto_of_ne stage hj]; exact hcode⟩, hlog⟩

/-- **A client makes its next probe.** -/
theorem Lab.Inv.probed (hL : L.Sound) (hs : s.Inv L) {t : Turn} {rest : List Turn}
    {env : ProbeEnv} {server : Option ServerEnv}
    (hstage : (s.clients i).stage = .probing (t :: rest))
    (hplain : (Action.probe i env server).Plain) :
    (s.probed (L.probeOf i t env server) rest).Inv L := by
  have hclient : (L.probeOf i t env server).client = i := rfl
  have hrecord : (L.probeOf i t env server).record = t.record := rfl
  generalize hx : L.probeOf i t env server = x at *
  have hmade : (s.logOf i).map (fun x => x.toTurn) ++ t :: rest = (L.clients i).schedule := by
    have := hs.stages i
    rwa [hstage] at this
  have hturn : x.toTurn = t := by rw [← hx]; rfl
  have hown : (s.probed x rest).logOf i = s.logOf i ++ [x] := by
    simp [Lab.probed, Lab.logOf, List.filter_append, hclient]
  have hother : ∀ j, j ≠ i → (s.probed x rest).logOf j = s.logOf j := fun j hj => by
    have hne : ¬ x.client = j := fun h => hj (h.symm.trans hclient)
    simp [Lab.probed, Lab.logOf, List.filter_append, hne]
  have hat : (s.probed x rest).clients i =
      { stage := if x.record then .reporting x rest else .probing rest
        failures := if x.record ∧ x.result.code ≠ 0 then (s.clients i).failures + 1
          else (s.clients i).failures } := by
    simp [Lab.probed, hclient]
  have helsewhere : ∀ j, j ≠ i → (s.probed x rest).clients j = s.clients j := fun j hj => by
    simp [Lab.probed, hclient, hj]
  have hmeasured : x.Measured L := by
    rw [← hx]
    exact measured_probeOf hL (hmade ▸ List.mem_append_right _ List.mem_cons_self) hplain
  have hlog : (s.probed x rest).log = s.log ++ [x] := rfl
  have hold : ∀ y ∈ s.log, y ∈ (s.probed x rest).log := fun y hy => List.mem_append_left _ hy
  exact {
    tracks := hs.tracks
    probes := fun j => by
      by_cases hj : j = i
      · subst hj
        have hnext := (hs.probes j).probeOf t env server
        rw [hx, ← hrecord] at hnext
        rw [hat, hown]
        exact hnext
      · rw [hother j hj, helsewhere j hj]
        exact hs.probes j
    stages := fun j => by
      by_cases hj : j = i
      · subst hj
        rw [hat, hown]
        have hrest : ((s.logOf j ++ [x]).map fun x => x.toTurn) ++ rest =
            (L.clients j).schedule := by
          rw [← hmade]
          simp [hturn]
        cases hr : x.record with
        | true => exact ⟨hrest, by simp⟩
        | false => exact hrest
      · rw [hother j hj, helsewhere j hj]
        exact hs.stages j
    measured := fun y hy => by
      rcases List.mem_append.mp hy with hy | hy
      · exact hs.measured y hy
      · rwa [List.mem_singleton.mp hy]
    history := fun p hp => by
      obtain ⟨y, hy, hpost⟩ := hs.history p hp
      exact ⟨y, hold y hy, hpost⟩
    pending := fun q hq => by
      rcases List.mem_append.mp hq with hq | hq
      · obtain ⟨y, hy, hpost⟩ := hs.pending q hq
        exact ⟨y, hold y hy, hpost⟩
      · obtain ⟨y, hy, rfl⟩ := List.mem_map.mp hq
        exact ⟨x, List.mem_append_right _ List.mem_cons_self, rfl, Option.mem_toList.mp hy⟩
    runs := fun r hr => by
      obtain ⟨j, hid, hdone⟩ := hs.runs r hr
      refine ⟨j, hid, fun hcompleted => ?_⟩
      obtain ⟨⟨code, hcode⟩, hturns⟩ := hdone hcompleted
      have hj : j ≠ i := by
        rintro rfl
        rw [hstage] at hcode
        cases hcode
      exact ⟨⟨code, by rw [helsewhere j hj]; exact hcode⟩, by rw [hother j hj]; exact hturns⟩ }

/-- **The dashboard processes a message**: what it adds to the history is of a probe that has
been made, and it completes a run that is done. -/
theorem Lab.Inv.post (hs : s.Inv L) {p : Posting} {host : Bytes} {m : Message}
    (hadded : ∀ q ∈ addedPost L.clock s.world m p.fault, ∃ x ∈ s.log, x.Posts L q)
    (hruns : ∀ op ∈ m.op?, ∀ r ∈ op.runId?, ∃ i, r = text (L.clients i).runId)
    (hcomplete : ∀ r, .completeRun r ∈ m.op? → ∃ i, r = text (L.clients i).runId ∧ s.Done L i) :
    (s.post L p host m).2.Inv L := by
  unfold Lab.post
  split
  · exact {
      tracks := hs.tracks.process
      probes := hs.probes
      stages := hs.stages
      measured := hs.measured
      history := fun q hq => by
        rcases List.mem_append.mp hq with hq | hq
        · exact hs.history q hq
        · exact hadded q (Option.mem_toList.mp hq)
      pending := hs.pending
      runs := by
        change ∀ r ∈ (process L.clock s.world m p.fault).store.runs.rows, ∃ i,
          r.id = text (L.clients i).runId ∧ (r.completedAt ≠ none → s.Done L i)
        rcases process_cases L.clock s.world m p.fault with hstore | ⟨op, hop, t₁, t₂, heff⟩
        · rw [hstore]
          exact hs.runs
        refine heff.forall_runRows hs.runs (fun id hid row hrow hnone => ?_)
          (fun row r hr => hr) fun t r hr _ => ?_
        · obtain ⟨i, hi⟩ := hruns op hop id hid
          exact ⟨i, hrow.trans hi, fun h => absurd hnone h⟩
        · obtain ⟨i, hi, hdone⟩ := hcomplete r.id (hr ▸ hop)
          exact ⟨i, hi, fun _ => hdone⟩ }
  · exact hs

omit [DecidableEq ι] in
@[simp] theorem clients_post {p : Posting} {host : Bytes} {m : Message} :
    (s.post L p host m).2.clients = s.clients := by
  unfold Lab.post
  split <;> rfl

@[simp] theorem logOf_post {p : Posting} {host : Bytes} {m : Message} (j : ι) :
    (s.post L p host m).2.logOf j = s.logOf j := by
  unfold Lab.post
  split <;> rfl

omit [DecidableEq ι] in
theorem world_post {p : Posting} {host : Bytes} {m : Message} (h : p.delivers host m) :
    (s.post L p host m).2.world = process L.clock s.world m p.fault := by
  rw [Lab.post, if_pos h]

/-- A client's stage does not matter to its message. -/
theorem post_goto (s : Lab ι) (p : Posting) (host : Bytes) (m : Message)
    (stage : ClientStage ι) :
    (s.post L p host m).2.goto i stage = ((s.goto i stage).post L p host m).2 := by
  unfold Lab.post
  have hworld : (s.goto i stage).world = s.world := rfl
  rw [hworld]
  split <;> rfl

/-- What is on its way is of the clients' runs. -/
theorem Lab.Inv.runId_of_posts (hs : s.Inv L) {x : Probe ι} (hx : x ∈ s.log) {q : Post}
    (hq : x.Posts L q) : q.sample.runId = text (L.clients x.client).runId := by
  cases hq with
  | client v hv => exact ((hs.measured x hx).posted v hv).2.2.1.runId
  | server y hy => exact ((hs.measured x hx).served y hy).2.2.runId

/-- **A report of a client** is processed. -/
theorem Lab.Inv.report (hs : s.Inv L) {x : Probe ι} (hx : x ∈ s.log) {v : ClientValues}
    (hv : v ∈ x.result.posted) {p : Posting} {host : Bytes} :
    (s.post L p host v.message).2.Inv L := by
  obtain ⟨-, hfits, -⟩ := (hs.measured x hx).posted v hv
  refine hs.post (fun q hq => ⟨x, hx, ?_⟩) (fun op hop r hr => ?_) fun r hop => ?_
  · rw [addedPost_client hfits hq]
    exact .client v hv
  · rw [op?_clientMessage hfits] at hop
    obtain ⟨-, -, rfl⟩ := Option.map_eq_some_iff.mp hop
    obtain rfl : _ = r := Option.some.inj ((Post.runId?_op _).symm.trans hr)
    exact ⟨x.client, hs.runId_of_posts hx (.client v hv)⟩
  · rw [op?_clientMessage hfits] at hop
    obtain ⟨-, -, h⟩ := Option.map_eq_some_iff.mp hop
    cases h

/-- **A post of a server** is processed. -/
theorem Lab.Inv.serverReport (hs : s.Inv L) {x : Probe ι} (hx : x ∈ s.log) {y : Served}
    (hy : y ∈ x.toPost) {p : Posting} {host : Bytes} :
    (s.post L p host (y.message (L.servers x.mode))).2.Inv L := by
  obtain ⟨-, hfits, -⟩ := (hs.measured x hx).served y hy
  refine hs.post (fun q hq => ⟨x, hx, ?_⟩) (fun op hop r hr => ?_) fun r hop => ?_
  · rw [addedPost_server hfits hq]
    exact .server y hy
  · rw [op?_serverMessage hfits] at hop
    obtain ⟨-, -, rfl⟩ := Option.map_eq_some_iff.mp hop
    obtain rfl : _ = r := Option.some.inj ((Post.runId?_op _).symm.trans hr)
    exact ⟨x.client, hs.runId_of_posts hx (.server y hy)⟩
  · rw [op?_serverMessage hfits] at hop
    obtain ⟨-, -, h⟩ := Option.map_eq_some_iff.mp hop
    cases h

/-- **Every step keeps the invariant.** -/
theorem Lab.Inv.step (hL : L.Sound) {a : Action ι} (hplain : a.Plain) (hs : s.Inv L) :
    (Lab.step L s a).Inv L := by
  cases a with
  | create i p =>
    simp only [Lab.step]
    split
    next hstage =>
      have hlog : s.logOf i = [] := by
        have := hs.stages i
        rwa [hstage] at this
      have hfailures : (s.clients i).failures = 0 := by
        obtain ⟨env, hrun⟩ := hs.probes i
        rw [hlog] at hrun
        exact (congrArg Progress.failures hrun).symm
      rw [post_goto]
      refine (hs.goto _ (by simp [hstage]) ?_).post (fun q hq => ?_) (fun op hop r hr => ?_)
        fun r hop => ?_
      · rw [hlog, hfailures]
        split
        · exact List.nil_append _
        · exact Or.inl ⟨rfl, rfl, rfl⟩
      · obtain ⟨op, hop, hpost⟩ := post?_of_addedPost hq
        rw [eq_of_mem_op?_runMessage (hL.accepted i) hop] at hpost
        cases hpost
      · rw [eq_of_mem_op?_runMessage (hL.accepted i) hop] at hr
        exact ⟨i, (Option.some.inj hr).symm⟩
      · exact absurd (eq_of_mem_op?_runMessage (hL.accepted i) hop) (by simp)
    next => exact hs
  | probe i env server =>
    simp only [Lab.step]
    split
    next t rest hstage => exact hs.probed hL hstage hplain
    next => exact hs
  | report i p =>
    simp only [Lab.step]
    split
    next x rest hstage =>
      have hfits := hs.stages i
      rw [hstage] at hfits
      obtain ⟨hmade, hx⟩ := hfits
      have hnext := hs.goto (i := i) (.probing rest) (by simp [hstage]) hmade
      cases hv : x.result.posted with
      | none => exact hnext
      | some v =>
        rw [Option.elim_some, post_goto]
        exact hnext.report (List.mem_of_mem_filter hx) hv
    next => exact hs
  | complete i p =>
    simp only [Lab.step]
    split
    next hstage =>
      have hmade := hs.stages i
      rw [hstage] at hmade
      have hall : ((s.logOf i).map fun x => x.toTurn) = (L.clients i).schedule :=
        (List.append_nil _).symm.trans hmade
      have hop := op?_completeMessage (hL.accepted i)
      have hnext := hs.goto (.finished (exitCode (s.clients i).failures)) (by simp [hstage])
        (Or.inr ⟨hall, rfl⟩)
      rw [post_goto]
      refine hnext.post (fun q hq => ?_)
        (fun op hop' r hr => ?_) fun r hop' => ?_
      · obtain ⟨op, hop', hpost⟩ := post?_of_addedPost hq
        obtain rfl : _ = op := Option.some.inj (hop.symm.trans hop')
        cases hpost
      · obtain rfl : _ = op := Option.some.inj (hop.symm.trans hop')
        exact ⟨i, (Option.some.inj hr).symm⟩
      · cases Option.some.inj (hop.symm.trans hop')
        exact ⟨i, rfl, ⟨_, by rw [clients_goto]⟩, hall⟩
    next => exact hs
  | serverPost k p =>
    simp only [Lab.step]
    split
    next m y hk =>
      obtain ⟨x, hx, rfl, hy⟩ := hs.pending _ (List.mem_of_getElem? hk)
      have hfewer : Lab.Inv L { s with pending := s.pending.eraseIdx k } :=
        { hs with pending := fun q hq => hs.pending q (List.mem_of_mem_eraseIdx hq) }
      exact hfewer.serverReport hx hy
    next => exact hs

/-- **The invariant holds after every run of the lab.** -/
theorem inv_lab (hL : L.Sound) {actions : List (Action ι)} (hplain : ∀ a ∈ actions, a.Plain) :
    ((lab L).run actions).Inv L :=
  Machine.invariant_of_inputs (M := lab L) inv_init (fun _ _ ha hs => hs.step hL ha) hplain

end Inv

end HybridTls

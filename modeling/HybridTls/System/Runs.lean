import HybridTls.System.Provenance

/-!
# The runs in the lab

What the dashboard says of a run, and what the client that has made it says.

A client that gets past the message that creates its run has been told that the run has been
created, and where the first segment of an answer tells the status code, this is so: the run
is in the table, described by the options of the client (`HybridTls.Lab.Created`), and stays
there. A run that is said to be completed has made its whole schedule
(`HybridTls.lab_runs`). And a client that has come to its end, among all the others, has done
what `main` does on its own (`HybridTls.lab_refines_main`).
-/

namespace HybridTls

open Json Keyed Transition

/-- The text of a string of bytes tells the bytes. -/
theorem text_injective : Function.Injective text := by
  have hbyte : ∀ b : UInt8, byte (char b) = b := forall_byte (by decide +kernel)
  intro a b h
  have hchars : a.map char = b.map char := String.ofList_injective h
  have hbytes := congrArg (List.map byte) hchars
  have hid : byte ∘ char = id := funext hbyte
  rwa [List.map_map, List.map_map, hid, List.map_id, List.map_id] at hbytes

/-! ### The description of a run -/

/-- The columns of a run that describe it. -/
def RunRow.description (r : RunRow) :
    String × Option String × Option ℤ × Option ℤ × Option String :=
  (r.clientName, r.opensslVersion, r.iterations, r.warmup, r.notes)

/-- What a post makes of them. -/
def RunPost.description (p : RunPost) :
    String × Option String × Option ℤ × Option ℤ × Option String :=
  (p.client.getD "openssl-client", p.opensslVersion, p.iterations, p.warmup, p.notes)

section Description

variable {t₁ t₂ : Timestamp} {s s' : Store} {op : Op} {id : String} {r : RunRow}

/-- **A description is kept** by everything but another creation of the run. -/
theorem Effect.get?_description (heff : Effect t₁ t₂ s s' op)
    (hop : ∀ p : RunPost, op = .createRun p.dump → id ≠ p.runId)
    (hr : s.runs.get? id = some r) :
    ∃ r', s'.runs.get? id = some r' ∧ r'.description = r.description := by
  have hensure : ∀ row : RunRow, (s.runs.insertOrIgnore row).get? id = some r := fun row => by
    rw [Table.get?_insertOrIgnore, hr]
    simp
  cases heff with
  | createRun p hp hruns hmeas =>
    refine ⟨r, ?_, rfl⟩
    rw [hruns, Table.get?_upsert, RunPost.id_row, if_neg (hop p rfl), hr]
  | completeRun runId hruns hmeas =>
    rw [hruns, Table.get?_modify]
    by_cases hid : id = runId
    · subst hid
      rw [if_pos rfl, hensure, Option.map_some]
      exact ⟨_, rfl, rfl⟩
    · rw [if_neg hid, hensure]
      exact ⟨r, rfl, rfl⟩
  | record p hp hruns hmeas => exact ⟨r, by rw [hruns, hensure], rfl⟩

/-- **A run that is created is described** by what has been posted, whether there was a row
or not. -/
theorem Effect.get?_created {p : RunPost} (heff : Effect t₁ t₂ s s' (.createRun p.dump)) :
    ∃ r, s'.runs.get? p.runId = some r ∧ r.description = p.description := by
  have hdump : ∀ q : RunPost, Op.createRun q.dump = .createRun p.dump → q = p := fun q h => by
    simpa using congrArg Op.runPost? h
  generalize hop : Op.createRun p.dump = op at heff
  cases heff with
  | createRun q hq hruns hmeas =>
    obtain rfl := hdump q hop.symm
    rw [hruns, Table.get?_upsert, RunPost.id_row, if_pos rfl]
    refine ⟨_, rfl, ?_⟩
    cases s.runs.get? q.runId <;> rfl
  | completeRun runId hruns hmeas => cases hop
  | record q hq hruns hmeas => cases q <;> cases hop

end Description

/-! ### Created runs -/

section Created

variable {ι : Type} [DecidableEq ι] {L : Setup ι} {s : Lab ι} {i : ι}

/-- A client has got past the creation of its run. -/
def Lab.Begun (s : Lab ι) (i : ι) : Prop :=
  (∃ rest, (s.clients i).stage = .probing rest) ∨ s.logOf i ≠ []

/-- The run of a client is in the table, as the client has described it. -/
def Lab.Described (L : Setup ι) (s : Lab ι) (i : ι) : Prop :=
  ∃ r, s.world.store.runs.get? (text (L.clients i).runId) = some r ∧
    r.description = ((L.clients i).runPost (L.version i)).description

/-- **Whose client has begun, that run has been created.** -/
def Lab.Created (L : Setup ι) (s : Lab ι) : Prop := ∀ i, s.Begun i → s.Described L i

omit [DecidableEq ι] in
/-- **A success is told only of what has been done**, if the answer tells its status code. -/
theorem code_post {p : Posting} {host : Bytes} {m : Message} (htells : p.Tells)
    (hcode : (s.post L p host m).1 = 0) :
    p.delivers host m ∧ ∃ op ∈ m.op?, (exec L.clock s.world ⟨op, p.fault⟩).1 = .ok () := by
  -- what `post_json` returns is what it reads
  have hread : ∀ status, (postJson (p.env status) host m.path m.body).code = 0 →
      readVerdict (p.env status).arrived = 0 := fun status h => by
    simp only [postJson] at h
    split at h
    · simp at h
    · split at h
      · simp at h
      · exact h
  unfold Lab.post at hcode
  split at hcode
  next hdelivers =>
    refine ⟨hdelivers, ?_⟩
    have hspec : answerStatus L.clock s.world m p.fault ∈ answerStatuses ∧
        (IsSuccess (answerStatus L.clock s.world m p.fault) ↔
          ∃ op ∈ m.op?, (exec L.clock s.world ⟨op, p.fault⟩).1 = .ok ()) :=
      answerStatus_spec
    obtain ⟨hmem, hiff⟩ := hspec
    refine hiff.mp ?_
    by_contra hfailure
    have hzero := hread _ hcode
    cases hn : p.arrived with
    | none => simp [Posting.env, hn, readVerdict] at hzero
    | some n =>
      have htold := htells n hn _ hmem
      rw [TellsStatus, if_neg hfailure] at htold
      simp only [Posting.env, Option.elim_some, hn, Option.map_some] at hzero
      by_cases hempty : (answerText (answerStatus L.clock s.world m p.fault) p.reason
          p.rest).take n = []
      · simp [hempty, readVerdict] at hzero
      · rcases (readVerdict_eq_zero_iff hempty).mp hzero with h | h
        · exact htold.1 h
        · exact htold.2 h
  next =>
    have hzero := hread _ hcode
    simp [Posting.env, readVerdict] at hzero

omit [DecidableEq ι] in
/-- A message takes away no description of a run that it does not create. -/
theorem Lab.Described.post (hs : s.Described L i) {p : Posting} {host : Bytes} {m : Message}
    (hop : ∀ q : RunPost, .createRun q.dump ∈ m.op? → text (L.clients i).runId ≠ q.runId) :
    (s.post L p host m).2.Described L i := by
  unfold Lab.post
  split
  · obtain ⟨r, hr, hdescription⟩ := hs
    rcases process_cases L.clock s.world m p.fault with hstore | ⟨op, hmem, t₁, t₂, heff⟩
    · refine ⟨r, ?_, hdescription⟩
      rw [← hr]
      exact congrArg (fun t : Store => t.runs.get? _) hstore
    · obtain ⟨r', hr', hsame⟩ := heff.get?_description (fun q hq => hop q (hq ▸ hmem)) hr
      exact ⟨r', hr', hsame.trans hdescription⟩
  · exact hs

/-- What is done to the world makes no difference to who has begun. -/
theorem begun_post {p : Posting} {host : Bytes} {m : Message} :
    (s.post L p host m).2.Begun i ↔ s.Begun i := by
  rw [Lab.Begun, clients_post, logOf_post, Lab.Begun]

theorem Lab.Created.post (hs : s.Created L) {p : Posting} {host : Bytes} {m : Message}
    (hop : ∀ payload, .createRun payload ∉ m.op?) : (s.post L p host m).2.Created L :=
  fun j hj => (hs j (begun_post.mp hj)).post fun q hq => absurd hq (hop q.dump)

/-- Where a client that has begun goes makes no difference. -/
theorem Lab.Created.goto (hs : s.Created L) (hi : s.Begun i) (stage : ClientStage ι) :
    (s.goto i stage).Created L := by
  rintro j hj
  refine hs j ?_
  by_cases h : j = i
  · exact h ▸ hi
  · rwa [Lab.Begun, clients_goto_of_ne stage h] at hj

/-- **A run is created**, and its client goes on if it is told so. -/
theorem Lab.Created.create (hL : L.Sound) (hinv : s.Inv L) (hs : s.Created L) {p : Posting}
    (hstage : (s.clients i).stage = .starting) (htells : p.Tells) :
    (Lab.step L s (.create i p)).Created L := by
  have hlog : s.logOf i = [] := by
    have := hinv.stages i
    rwa [hstage] at this
  simp only [Lab.step, hstage]
  intro j hj
  by_cases hji : j = i
  · subst hji
    -- its log is empty, so it has been told that the run has been created
    have hcode : (s.post L p (L.clients j).dashboardHost
        ((L.clients j).runMessage (L.version j))).1 = 0 := by
      by_contra hcode
      rw [if_neg hcode, Lab.Begun, clients_goto, logOf_goto, logOf_post, hlog] at hj
      simp at hj
    obtain ⟨hdelivers, op, hop, hok⟩ := code_post htells hcode
    obtain rfl := eq_of_mem_op?_runMessage (hL.accepted j) hop
    obtain ⟨t₁, t₂, heff⟩ := exec_effect hok
    obtain ⟨r, hr, hdescription⟩ := heff.get?_created
    refine ⟨r, ?_, hdescription⟩
    have hworld := world_post (s := s) (L := L) hdelivers
    rw [process_eq, Option.mem_def.mp hop, Option.elim_some] at hworld
    rw [← hworld] at hr
    exact hr
  · -- another client's run is another run
    rw [Lab.Begun, clients_goto_of_ne _ hji, logOf_goto, clients_post, logOf_post] at hj
    refine (hs j hj).post fun q hq hsame => hji (hL.distinct j i (text_injective ?_))
    have hdump := eq_of_mem_op?_runMessage (hL.accepted i) hq
    obtain rfl : q = (L.clients i).runPost (L.version i) := by
      simpa using congrArg Op.runPost? hdump
    exact hsame

/-- **Every step keeps it.** -/
theorem Lab.Created.step (hL : L.Sound) {a : Action ι} (htells : a.Tells) (hinv : s.Inv L)
    (hs : s.Created L) : (Lab.step L s a).Created L := by
  cases a with
  | create i p =>
    by_cases hstage : (s.clients i).stage = .starting
    · exact hs.create hL hinv hstage htells
    · simpa only [Lab.step] using hs
  | probe i env server =>
    simp only [Lab.step]
    split
    next t rest hstage =>
      intro j hj
      refine hs j ?_
      by_cases hji : j = i
      · exact Or.inl ⟨_, hji ▸ hstage⟩
      · have hne : ¬ i = j := fun h => hji h.symm
        simpa [Lab.Begun, Lab.probed, Lab.logOf, List.filter_append, Setup.probeOf, hji, hne]
          using hj
    next => exact hs
  | report i p =>
    simp only [Lab.step]
    split
    next x rest hstage =>
      have hfits := hinv.stages i
      rw [hstage] at hfits
      have hbegun : s.Begun i := Or.inr (List.ne_nil_of_mem hfits.2)
      cases hv : x.result.posted with
      | none => exact hs.goto hbegun _
      | some v =>
        rw [Option.elim_some]
        refine Lab.Created.goto (hs.post fun payload hop => ?_) (begun_post.mpr hbegun) _
        obtain ⟨-, hfits', -⟩ := (hinv.measured x (List.mem_of_mem_filter hfits.2)).posted v hv
        rw [op?_clientMessage hfits'] at hop
        obtain ⟨-, -, h⟩ := Option.map_eq_some_iff.mp hop
        cases h
    next => exact hs
  | complete i p =>
    simp only [Lab.step]
    split
    next hstage =>
      refine Lab.Created.goto (hs.post fun payload hop => ?_)
        (begun_post.mpr (Or.inl ⟨_, hstage⟩)) _
      cases Option.some.inj ((op?_completeMessage (hL.accepted i)).symm.trans hop)
    next => exact hs
  | serverPost k p =>
    simp only [Lab.step]
    split
    next m y hk =>
      obtain ⟨x, hx, rfl, hy⟩ := hinv.pending _ (List.mem_of_getElem? hk)
      obtain ⟨-, hfits, -⟩ := (hinv.measured x hx).served y hy
      refine Lab.Created.post (s := { s with pending := s.pending.eraseIdx k }) hs
        fun payload hop => ?_
      rw [op?_serverMessage hfits] at hop
      obtain ⟨-, -, h⟩ := Option.map_eq_some_iff.mp hop
      cases h
    next => exact hs

end Created

/-! ### What is said of the runs -/

section Lab

variable {ι : Type} [DecidableEq ι] {L : Setup ι}

/-- **What the dashboard says of the runs is so**, in every state of the lab. Every run in the
table is a client's, and if it is completed, the client has come to its end and has made all
of its probes; and the run of every client that has got past its creation is in the table,
described by the client's own options. -/
theorem lab_runs (hL : L.Sound) {actions : List (Action ι)} (hplain : ∀ a ∈ actions, a.Plain)
    (htells : ∀ a ∈ actions, a.Tells) :
    (∀ r ∈ ((lab L).run actions).world.store.runs.rows, ∃ i,
      r.id = text (L.clients i).runId ∧
        (r.completedAt ≠ none → ((lab L).run actions).Done L i)) ∧
    ∀ i, ((lab L).run actions).Begun i → ((lab L).run actions).Described L i := by
  have hinv := inv_lab hL hplain
  refine ⟨hinv.runs, ?_⟩
  have hboth : ((lab L).run actions).Inv L ∧ ((lab L).run actions).Created L := by
    refine Machine.invariant_of_inputs (M := lab L) (P := fun s => s.Inv L ∧ s.Created L)
      (Q := fun a => a.Plain ∧ a.Tells) ⟨inv_init, ?_⟩ (fun s a ha hs => ?_)
      fun a ha => ⟨hplain a ha, htells a ha⟩
    · rintro i (⟨rest, h⟩ | h)
      · simp [lab] at h
      · simp [lab, Lab.logOf] at h
    · exact ⟨hs.1.step hL ha.1, hs.2.step hL ha.2 hs.1⟩
  exact hboth.2

/-- Where the run of the deployment ends. -/
theorem composeRun_end :
    (((lab composeSetup).run composeRun).clients true).stage.exitCode? = some 0 ∧
      (((lab composeSetup).run composeRun).logOf true).length = 3 ∧
      (((lab composeSetup).run composeRun).logOf false).length = 1 ∧
      ∃ m ∈ ((lab composeSetup).run composeRun).world.store.measurements.rows,
        m.serverHandshakeUs = some 1500 ∧ m.clientTotalUs.isSome := by
  decide +kernel

/-- Both clients have created their runs. -/
theorem lab_runs_compose : ((lab composeSetup).run composeRun).Described composeSetup true ∧
    ((lab composeSetup).run composeRun).Described composeSetup false := by
  have hruns := lab_runs sound_composeSetup plain_composeRun tells_composeRun
  constructor
  · refine hruns.2 true (Or.inr fun h => ?_)
    exact absurd composeRun_end.2.1 (by simp [h])
  · refine hruns.2 false (Or.inr fun h => ?_)
    exact absurd composeRun_end.2.2.1 (by simp [h])

/-- **A client that has come to its end is `main`**: what it has probed, the failures it has
counted and its exit code are those of a call of `main` by itself, in some environment. -/
theorem lab_refines_main (hL : L.Sound) {actions : List (Action ι)}
    (hplain : ∀ a ∈ actions, a.Plain) {i : ι} {code : ℤ}
    (hcode : (((lab L).run actions).clients i).stage = .finished code) :
    ∃ env arguments, parseOptions env.generatedRunId arguments = some (L.clients i) ∧
      env.contexts ∧
      main env arguments = (code, ⟨(((lab L).run actions).logOf i).map fun x => x.toIssued,
        (((lab L).run actions).clients i).failures⟩) := by
  have hinv := inv_lab hL hplain
  obtain ⟨generatedRunId, arguments, hopt⟩ := hL.options i
  obtain ⟨env, hrun⟩ := hinv.probes i
  have hstage := hinv.stages i
  rw [hcode] at hstage
  rcases hstage with ⟨hlog, rfl, hfailures⟩ | ⟨hall, rfl⟩
  · -- the run has not been created
    refine ⟨⟨generatedRunId, true, false, env⟩, arguments, hopt, rfl, ?_⟩
    rw [hlog, hfailures]
    simp [main, hopt]
  · refine ⟨⟨generatedRunId, true, true, env⟩, arguments, hopt, rfl, ?_⟩
    have hbenchmark : benchmark env (L.clients i) =
        ⟨(((lab L).run actions).logOf i).map fun x => x.toIssued,
          (((lab L).run actions).clients i).failures⟩ := by
      rw [benchmark_eq_run, ← hrun, hall]
      rfl
    rw [main_eq hopt rfl rfl, hbenchmark]
    rfl

/-- One of them has come to its end. -/
theorem lab_refines_main_compose : ∃ env arguments, (main env arguments).1 = 0 ∧
    (main env arguments).2.issued.length = 3 := by
  obtain ⟨env, arguments, -, -, hmain⟩ := lab_refines_main sound_composeSetup plain_composeRun
    (ClientStage.exitCode?_eq_some_iff.mp composeRun_end.1)
  refine ⟨env, arguments, by rw [hmain], ?_⟩
  rw [hmain, List.length_map]
  exact composeRun_end.2.1

end Lab

end HybridTls

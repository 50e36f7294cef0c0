import HybridTls.Lib.Machine
import HybridTls.Tls.SampleId
import Mathlib.Data.Int.CardIntervalMod
import Mathlib.Data.List.Rotate

/-!
# The benchmark's schedule

`main` of the benchmark client: a warm-up loop and a measured loop, each probing
the three endpoints in every turn. In the measured loop the endpoint a turn
starts with moves on by one from turn to turn.

The loops are runs of a machine that issues one probe at a time
(`HybridTls.benchmark_eq_run`), along a list that can be written down beforehand
(`HybridTls.measuredTurns`): what a probe returns has no influence on what is
probed next. So what the loops issue is that list
(`HybridTls.turns_runFrom`), whatever the network does, and everything about the
schedule is read off it.
-/

namespace HybridTls

open Transition

/-- In a sequence of blocks, each of which knows its own number, those elements
that have a given number are the block of that number. -/
theorem filter_flatMap_of_nodup {α β : Type*} [DecidableEq α] {l : List α} {f : α → List β}
    {key : β → α} {a : α} (hl : l.Nodup) (ha : a ∈ l) (hkey : ∀ k, ∀ b ∈ f k, key b = k) :
    (l.flatMap f).filter (fun b => key b = a) = f a := by
  induction l with
  | nil => simp at ha
  | cons k l ih =>
    obtain ⟨hk, hl⟩ := List.nodup_cons.mp hl
    rw [List.flatMap_cons, List.filter_append]
    rcases List.mem_cons.mp ha with rfl | ha
    -- this is the block, and no later one has its number
    · have hfirst : (f a).filter (fun b => key b = a) = f a :=
        List.filter_eq_self.mpr fun b hb => by simpa using hkey a b hb
      have hrest : (l.flatMap f).filter (fun b => key b = a) = [] := by
        refine List.filter_eq_nil_iff.mpr fun b hb => ?_
        obtain ⟨k, hkl, hbk⟩ := List.mem_flatMap.mp hb
        have hne : k ≠ a := fun h => hk (h ▸ hkl)
        simpa [hkey k b hbk] using hne
      rw [hfirst, hrest, List.append_nil]
    · have hne : k ≠ a := fun h => hk (h ▸ ha)
      have hfirst : (f k).filter (fun b => key b = a) = [] :=
        List.filter_eq_nil_iff.mpr fun b hb => by simpa [hkey k b hb] using hne
      rw [hfirst, List.nil_append, ih hl ha]

/-! ### The loops of `main` -/

/-- What a call of `probe` is for. -/
structure Turn where
  mode : Mode
  sequence : ℕ
  record : Bool
  deriving DecidableEq

/-- A call of `probe` that has been made. -/
structure Issued extends Turn where
  result : ProbeResult

/-- The probes made so far, and the variable `failures`. -/
structure Progress where
  issued : List Issued
  failures : ℕ

/-- The array `endpoints`, by the modes of its entries. -/
def endpoints : List Mode := [.classical, .hybrid, .hybridP256]

/-- The endpoint in a slot of the array. -/
def endpointAt (slot : ℕ) : Mode := endpoints.getD slot .classical

/-- Call `probe`, which meets the next of the environments. -/
def issue (env : ℕ → ProbeEnv) (options : ClientOptions) (p : Progress) (t : Turn) : Issued where
  toTurn := t
  result := probe (env p.issued.length) options (options.endpoint t.mode) t.sequence t.record

/-- The inner loop's body of the warm-up. -/
def warmUpTurn (env : ℕ → ProbeEnv) (options : ClientOptions) (index : ℕ) (p : Progress) (g : ℕ) :
    Progress :=
  { p with issued := p.issued ++ [issue env options p ⟨endpointAt g, index, false⟩] }

/-- The inner loop's body of the measurement. -/
def measuredTurn (env : ℕ → ProbeEnv) (options : ClientOptions) (index : ℕ) (p : Progress)
    (g : ℕ) : Progress :=
  -- the endpoint to start with moves on by one from iteration to iteration
  let start := (index - 1) % 3
  let slot := (start + g) % 3
  let e := issue env options p ⟨endpointAt slot, index, true⟩
  { issued := p.issued ++ [e]
    failures := if e.result.code ≠ 0 then p.failures + 1 else p.failures }

/-- The warm-up loop. -/
def warmUpLoop (env : ℕ → ProbeEnv) (options : ClientOptions) (p : Progress) : Progress :=
  (List.range' 1 options.warmup.toNat).foldl
    (fun p index => (List.range 3).foldl (warmUpTurn env options index) p) p

/-- The measured loop. -/
def measuredLoop (env : ℕ → ProbeEnv) (options : ClientOptions) (p : Progress) : Progress :=
  (List.range' 1 options.iterations.toNat).foldl
    (fun p index => (List.range 3).foldl (measuredTurn env options index) p) p

/-- Both loops. -/
def benchmark (env : ℕ → ProbeEnv) (options : ClientOptions) : Progress :=
  measuredLoop env options (warmUpLoop env options ⟨[], 0⟩)

/-- **What a process meets.** -/
structure MainEnv where
  /-- What `default_run_id` generates. -/
  generatedRunId : Bytes
  /-- Whether `create_context` succeeds for all three endpoints. -/
  contexts : Bool
  /-- Whether the dashboard creates the run. -/
  runCreated : Bool
  /-- What the probes meet, one after the other. -/
  probes : ℕ → ProbeEnv

/-- `main`: the exit code, and what has been probed. -/
def main (env : MainEnv) (arguments : List Bytes) : ℤ × Progress :=
  match parseOptions env.generatedRunId arguments with
  | none => (2, ⟨[], 0⟩) -- the usage
  | some options =>
    if !env.contexts || !env.runCreated then (1, ⟨[], 0⟩)
    else
      let p := benchmark env.probes options
      (if p.failures = 0 then 0 else 1, p)

/-! ### The schedule -/

/-- What the warm-up loop probes. -/
def warmUpTurns (n : ℕ) : List Turn :=
  (List.range' 1 n).flatMap fun index => endpoints.map fun m => ⟨m, index, false⟩

/-- What the measured loop probes: in every iteration the three modes, rotated by
one place more. -/
def measuredTurns (n : ℕ) : List Turn :=
  (List.range' 1 n).flatMap fun index =>
    (endpoints.rotate (index - 1)).map fun m => ⟨m, index, true⟩

/-- One turn of either loop. -/
def prober (env : ℕ → ProbeEnv) (options : ClientOptions) : Machine Progress Turn where
  init := ⟨[], 0⟩
  step p t :=
    { issued := p.issued ++ [issue env options p t]
      failures := if t.record ∧ (issue env options p t).result.code ≠ 0 then p.failures + 1
        else p.failures }

section Runs

variable {env : ℕ → ProbeEnv} {options : ClientOptions} {p : Progress}

/-- The order of the endpoints in one iteration. -/
theorem slots_eq_rotate (k : ℕ) :
    (List.range 3).map (fun g => endpointAt ((k % 3 + g) % 3)) = endpoints.rotate k := by
  rw [← List.rotate_mod endpoints k]
  change _ = endpoints.rotate (k % 3)
  -- only the remainder matters, and there are three of them
  have hk : k % 3 = 0 ∨ k % 3 = 1 ∨ k % 3 = 2 := by omega
  rcases hk with hk | hk | hk <;> rw [hk] <;> rfl

theorem step_warmUp (index g : ℕ) :
    (prober env options).step p ⟨endpointAt g, index, false⟩ =
      warmUpTurn env options index p g := by
  simp [prober, warmUpTurn]

theorem step_measured (index g : ℕ) :
    (prober env options).step p ⟨endpointAt (((index - 1) % 3 + g) % 3), index, true⟩ =
      measuredTurn env options index p g := by
  simp [prober, measuredTurn]

theorem warmUpLoop_eq_runFrom :
    warmUpLoop env options p =
      (prober env options).runFrom p (warmUpTurns options.warmup.toNat) := by
  have hmodes : endpoints = (List.range 3).map endpointAt := by decide
  simp only [warmUpTurns, hmodes, Machine.runFrom, List.foldl_flatMap, List.foldl_map, step_warmUp]
  rfl

theorem measuredLoop_eq_runFrom :
    measuredLoop env options p =
      (prober env options).runFrom p (measuredTurns options.iterations.toNat) := by
  simp only [measuredTurns, ← slots_eq_rotate, Machine.runFrom, List.foldl_flatMap,
    List.foldl_map, step_measured]
  rfl

/-- **The loops are one run along a list.** -/
theorem benchmark_eq_run :
    benchmark env options = (prober env options).run
      (warmUpTurns options.warmup.toNat ++ measuredTurns options.iterations.toNat) := by
  rw [Machine.run_append, benchmark, measuredLoop_eq_runFrom, warmUpLoop_eq_runFrom]
  rfl

/-- **What is issued is what is on the list**, whatever the probes return. -/
theorem turns_runFrom (ts : List Turn) :
    ((prober env options).runFrom p ts).issued.map Issued.toTurn =
      p.issued.map Issued.toTurn ++ ts := by
  induction ts generalizing p with
  | nil => simp
  | cons t ts ih =>
    rw [Machine.runFrom_cons, ih]
    simp [prober, issue]

end Runs

/-! ### What the measured loop issues -/

/-- The probes that were made to be recorded. -/
def Progress.recorded (p : Progress) : List Issued := p.issued.filter (·.record)

/-- The modes that were recorded in one iteration, in order. -/
def Progress.triple (p : Progress) (index : ℕ) : List Mode :=
  (p.recorded.filter (·.sequence = index)).map (·.mode)

/-- **The state of the loops is consistent**: every call has met one of the
environments, and the failures of the recorded ones have been counted. -/
structure Progress.Consistent (env : ℕ → ProbeEnv) (options : ClientOptions) (p : Progress) :
    Prop where
  results : ∀ e ∈ p.issued, ∃ k,
    e.result = probe (env k) options (options.endpoint e.mode) e.sequence e.record
  failures : p.failures = p.recorded.countP fun e => e.result.code ≠ 0

section Measured

variable {env : ℕ → ProbeEnv} {options : ClientOptions} {n index : ℕ} {m : Mode}

theorem Progress.Consistent.step {p : Progress} (hp : p.Consistent env options) (t : Turn) :
    ((prober env options).step p t).Consistent env options := by
  constructor
  · intro e he
    rcases List.mem_append.mp he with he | he
    · exact hp.results e he
    · obtain rfl := List.mem_singleton.mp he
      exact ⟨p.issued.length, rfl⟩
  · have hrecord : (issue env options p t).record = t.record := rfl
    simp only [prober, Progress.recorded, hp.failures, List.filter_append, List.countP_append]
    cases hr : t.record with
    | false => simp [hrecord, hr]
    | true =>
      by_cases hcode : (issue env options p t).result.code = 0
      · simp [hrecord, hr, hcode]
      · simp [hrecord, hr, hcode]

theorem consistent_benchmark : (benchmark env options).Consistent env options := by
  rw [benchmark_eq_run]
  refine Machine.invariant ⟨?_, rfl⟩ (fun p t hp => hp.step t) _
  intro e he
  simp [prober] at he

theorem record_of_mem_warmUpTurns {t : Turn} (h : t ∈ warmUpTurns n) : t.record = false := by
  simp only [warmUpTurns, List.mem_flatMap, List.mem_map] at h
  obtain ⟨index, -, m, -, rfl⟩ := h
  rfl

theorem mem_measuredTurns {t : Turn} (h : t ∈ measuredTurns n) :
    t.record = true ∧ 1 ≤ t.sequence ∧ t.sequence ≤ n := by
  simp only [measuredTurns, List.mem_flatMap, List.mem_map, List.mem_range'_1] at h
  obtain ⟨index, hindex, m, -, rfl⟩ := h
  exact ⟨rfl, hindex.1, by simp only; omega⟩

/-- **The recorded probes**, in the order in which they are made. -/
theorem recorded_benchmark (env : ℕ → ProbeEnv) (options : ClientOptions) :
    (benchmark env options).recorded.map Issued.toTurn =
      measuredTurns options.iterations.toNat := by
  have hturns : (benchmark env options).issued.map Issued.toTurn =
      warmUpTurns options.warmup.toNat ++ measuredTurns options.iterations.toNat := by
    rw [benchmark_eq_run]
    exact turns_runFrom _
  have hwarm : (warmUpTurns options.warmup.toNat).filter (·.record) = [] :=
    List.filter_eq_nil_iff.mpr fun t ht => by simp [record_of_mem_warmUpTurns ht]
  have hmeasured : (measuredTurns options.iterations.toNat).filter (·.record) =
      measuredTurns options.iterations.toNat :=
    List.filter_eq_self.mpr fun t ht => (mem_measuredTurns ht).1
  have hfilter := congrArg (List.filter (·.record)) hturns
  rwa [List.filter_append, hwarm, hmeasured, List.nil_append, List.filter_map] at hfilter

theorem length_measuredTurns : (measuredTurns n).length = 3 * n := by
  simp [measuredTurns, List.length_flatMap, endpoints, Nat.mul_comm]

theorem filter_measuredTurns (hlo : 1 ≤ index) (hhi : index ≤ n) :
    (measuredTurns n).filter (·.sequence = index) =
      (endpoints.rotate (index - 1)).map fun m => ⟨m, index, true⟩ := by
  refine filter_flatMap_of_nodup List.nodup_range' (List.mem_range'_1.mpr ⟨hlo, by omega⟩) ?_
  intro k t ht
  obtain ⟨m, -, rfl⟩ := List.mem_map.mp ht
  rfl

/-- **Every iteration rotates the same order.** -/
theorem triple_benchmark (hlo : 1 ≤ index) (hhi : index ≤ options.iterations.toNat) :
    (benchmark env options).triple index = endpoints.rotate (index - 1) := by
  have hturns := congrArg (List.filter (·.sequence = index)) (recorded_benchmark env options)
  have hmodes := congrArg (List.map Turn.mode) hturns
  rw [filter_measuredTurns hlo hhi, List.filter_map, List.map_map, List.map_map] at hmodes
  exact hmodes.trans (List.map_id _)

/-- **Every pair is probed once.** -/
theorem count_recorded (m : Mode) (hlo : 1 ≤ index) (hhi : index ≤ options.iterations.toNat) :
    ((benchmark env options).recorded.countP fun e => e.mode = m ∧ e.sequence = index) = 1 := by
  -- a rotation has the modes that the array has, each once
  have hone : endpoints.count m = 1 := by cases m <;> rfl
  have hcount : (benchmark env options).recorded.countP (fun e => e.mode = m ∧ e.sequence = index) =
      ((benchmark env options).triple index).count m := by
    rw [Progress.triple, List.count, List.countP_map, List.countP_filter]
    exact List.countP_congr fun e _ => by simp
  rw [hcount, triple_benchmark hlo hhi, (List.rotate_perm endpoints (index - 1)).count_eq, hone]

/-- The place of a mode moves on by one from iteration to iteration. -/
theorem getElem?_rotate_iff {k j : ℕ} (hj : j < 3) :
    (endpoints.rotate k)[j]? = some m ↔ k ≡ endpoints.idxOf m + 2 * j [MOD 3] := by
  have hslot : ∀ x < 3, endpoints[x]? = some m ↔ x = endpoints.idxOf m := by
    cases m <;> decide
  have hm : endpoints.idxOf m < 3 := by cases m <;> decide
  have hrotate : (endpoints.rotate k)[j]? = endpoints[(j + k) % 3]? := List.getElem?_rotate hj
  rw [hrotate, hslot _ (Nat.mod_lt _ (by decide)), Nat.ModEq]
  omega

/-- **Every mode takes every place equally often**, up to one time. -/
theorem count_position {n j : ℕ} (m : Mode) (hn : n ≤ options.iterations.toNat) (hj : j < 3) :
    Nat.count (fun k => ((benchmark env options).triple (k + 1))[j]? = some m) n = n / 3 ∨
      Nat.count (fun k => ((benchmark env options).triple (k + 1))[j]? = some m) n =
        (n + 2) / 3 := by
  have hcount : Nat.count (fun k => ((benchmark env options).triple (k + 1))[j]? = some m) n =
      Nat.count (· ≡ endpoints.idxOf m + 2 * j [MOD 3]) n := by
    rw [Nat.count_eq_card_filter_range, Nat.count_eq_card_filter_range]
    refine congrArg Finset.card (Finset.filter_congr fun k hk => ?_)
    have hk := Finset.mem_range.mp hk
    rw [triple_benchmark (by omega) (by omega), Nat.add_sub_cancel, getElem?_rotate_iff hj]
  rw [hcount, Nat.count_modEq_card n (by decide)]
  split <;> omega

/-- Every recorded probe is posted, under the identifier of its run, mode and
number. -/
theorem posted_of_mem_recorded (hopt : options.Accepted) {e : Issued}
    (he : e ∈ (benchmark env options).recorded) :
    ∃ v, e.result.posted = some v ∧
      v.sampleId = snprintf 180 (sampleIdText options.runId (lit e.mode.text) e.sequence) := by
  obtain ⟨hissued, hrecord⟩ := List.mem_filter.mp he
  obtain ⟨k, hresult⟩ := consistent_benchmark.results e hissued
  rw [hresult, hrecord, ← hopt.mode e.mode]
  exact ⟨_, rfl, rfl⟩

end Measured

/-- **Formatted identifiers keep samples apart.** -/
theorem formatted_sampleId_inj {runId runId' : Bytes} {m m' : Mode} {i j : ℕ}
    (hrun : IsIdentifier 120 (text runId)) (hrun' : IsIdentifier 120 (text runId'))
    (hi : i ≤ 1000000) (hj : j ≤ 1000000)
    (h : snprintf 180 (sampleIdText runId (lit m.text) i) =
      snprintf 180 (sampleIdText runId' (lit m'.text) j)) :
    runId = runId' ∧ m = m' ∧ i = j := by
  rw [snprintf_sampleIdText (isIdentifier_text_iff.mp hrun).2.1 hi,
    snprintf_sampleIdText (isIdentifier_text_iff.mp hrun').2.1 hj] at h
  exact sampleIdText_inj h

/-- With acceptable options, contexts and a run on the dashboard, `main` goes
through both loops. -/
theorem main_eq {env : MainEnv} {arguments : List Bytes} {options : ClientOptions}
    (hopt : parseOptions env.generatedRunId arguments = some options) (hcontexts : env.contexts)
    (hcreated : env.runCreated) :
    main env arguments = (if (benchmark env.probes options).failures = 0 then 0 else 1,
      benchmark env.probes options) := by
  simp [main, hopt, hcontexts, hcreated]

/-- **The schedule is complete, balanced and free of collisions.** With `n`
iterations, `3 * n` probes are recorded, one for each mode and number; every
iteration rotates the same order, and every mode has been in every place equally
often, up to one time; the failures of the recorded probes are counted; and every
recorded probe is posted under an identifier that determines the run, the mode
and the number. -/
theorem schedule_complete {env : MainEnv} {arguments : List Bytes} {options : ClientOptions}
    (hopt : parseOptions env.generatedRunId arguments = some options) (hcontexts : env.contexts)
    (hcreated : env.runCreated) :
    (∃ p, main env arguments = (if p.failures = 0 then 0 else 1, p) ∧
      p.recorded.length = 3 * options.iterations.toNat ∧
      (∀ m, ∀ index ≥ 1, index ≤ options.iterations.toNat →
        (p.recorded.countP fun e => e.mode = m ∧ e.sequence = index) = 1) ∧
      (∀ index ≥ 1, index ≤ options.iterations.toNat →
        p.triple index = endpoints.rotate (index - 1)) ∧
      (∀ n ≤ options.iterations.toNat, ∀ m, ∀ j < 3,
        Nat.count (fun k => (p.triple (k + 1))[j]? = some m) n = n / 3 ∨
          Nat.count (fun k => (p.triple (k + 1))[j]? = some m) n = (n + 2) / 3) ∧
      p.failures = (p.recorded.countP fun e => e.result.code ≠ 0) ∧
      ∀ e ∈ p.recorded, ∃ v, e.result.posted = some v ∧
        v.sampleId = snprintf 180 (sampleIdText options.runId (lit e.mode.text) e.sequence)) ∧
    ∀ {runId runId' : Bytes} {m m' : Mode} {i j : ℕ},
      IsIdentifier 120 (text runId) → IsIdentifier 120 (text runId') →
      i ≤ 1000000 → j ≤ 1000000 →
      snprintf 180 (sampleIdText runId (lit m.text) i) =
        snprintf 180 (sampleIdText runId' (lit m'.text) j) →
      runId = runId' ∧ m = m' ∧ i = j := by
  have hlength := congrArg List.length (recorded_benchmark env.probes options)
  rw [List.length_map, length_measuredTurns] at hlength
  exact ⟨⟨benchmark env.probes options, main_eq hopt hcontexts hcreated, hlength,
    fun m _ => count_recorded m, fun _ => triple_benchmark,
    fun n hn m j => count_position m hn, consistent_benchmark.failures,
    fun _ => posted_of_mem_recorded (accepted_of_parseOptions hopt)⟩, formatted_sampleId_inj⟩

/-- A process whose probes all fail. -/
def failing : MainEnv where
  generatedRunId := lit "run-1"
  contexts := true
  runCreated := true
  probes _ :=
    { clock := fun _ => 0
      tcpConnect := .error (lit "connect: Connection refused")
      sslNew := true
      sslConnect := .error none
      groupName := none
      version := []
      cipherName := []
      sslWrite := .error none
      pieces := []
      numberRead := none
      numberWritten := none }

/-- Four iterations, of which the last starts as the first. -/
theorem schedule_complete_failing :
    ∃ p, main failing [lit "--iterations", lit "4"] = (if p.failures = 0 then 0 else 1, p) ∧
      p.recorded.length = 12 ∧ p.triple 4 = p.triple 1 := by
  have hopt : parseOptions failing.generatedRunId [lit "--iterations", lit "4"] =
      some { ClientOptions.default (lit "run-1") with iterations := 4 } := by
    decide +kernel
  obtain ⟨⟨p, hmain, hlength, -, htriple, -⟩, -⟩ := schedule_complete hopt rfl rfl
  refine ⟨p, hmain, hlength, ?_⟩
  rw [htriple 4 (by decide) (by decide), htriple 1 (by decide) (by decide)]
  rfl

end HybridTls

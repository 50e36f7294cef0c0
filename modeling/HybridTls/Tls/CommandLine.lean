import HybridTls.Lib.Assignment
import HybridTls.Tls.Options
import HybridTls.Tls.Server

/-!
# The command lines

What the arguments of the two C programs mean, as a whole. Both programs apply one argument
after the other; but their options are fields of a record, and so an option has the value that
it is given last, or its default, whatever stands in between (`HybridTls.options_given`). A
command line is accepted exactly if it is a list of known names, each with a value, and what
it gives is within the bounds.

The benchmark is started by a script that puts the values of its environment's variables in
front of the arguments that it has been given. The defaults of the script are those of the
program. So a variable takes the place of a default of the program, unless it is unset or
empty, and the arguments have the last word (`HybridTls.entrypoint_options`).
-/

namespace HybridTls

open Assignment

/-! ### Names and values -/

/-- The arguments as names with values, if none is left over. -/
def pairs : List Bytes → Option (List (Bytes × Bytes))
  | [] => some []
  | [_] => none
  | name :: value :: rest => (pairs rest).map ((name, value) :: ·)

/-- **The loop of the client assigns the values to the names.** -/
theorem parseArguments_eq (o : ClientOptions) (arguments : List Bytes) :
    parseArguments o arguments = (pairs arguments).bind (assignAll optionTable o) := by
  induction o, arguments using parseArguments.induct with
  | case1 o => rfl
  | case2 => rfl
  | case3 o name value rest ih =>
    have hset : o.set name value = assign optionTable o name value := rfl
    rw [parseArguments, pairs, hset]
    simp only [ih]
    cases pairs rest with
    | none => exact Option.bind_fun_none _
    | some ps => rfl

/-- So does that of the server. -/
theorem parseServerArguments_eq (o : ServerOptions) (arguments : List Bytes) :
    parseServerArguments o arguments = (pairs arguments).bind (assignAll serverOptionTable o) := by
  induction o, arguments using parseServerArguments.induct with
  | case1 o => rfl
  | case2 => rfl
  | case3 o name value rest ih =>
    have hset : o.set name value = assign serverOptionTable o name value := rfl
    rw [parseServerArguments, pairs, hset]
    simp only [ih]
    cases pairs rest with
    | none => exact Option.bind_fun_none _
    | some ps => rfl

/-! ### The options are fields -/

theorem lawful_optionTable : Lawful optionTable where
  nodup := by decide +kernel
  overwrites := by
    simp only [optionTable, List.forall_mem_cons, List.not_mem_nil, false_implies, implies_true,
      and_true]
  commutes := by
    simp only [optionTable, List.pairwise_cons, List.forall_mem_cons, List.not_mem_nil,
      false_implies, implies_true, and_true, List.Pairwise.nil]

theorem lawful_serverOptionTable : Lawful serverOptionTable where
  nodup := by decide +kernel
  overwrites := by
    simp only [serverOptionTable, List.forall_mem_cons, List.not_mem_nil, false_implies,
      implies_true, and_true]
  commutes := by
    simp only [serverOptionTable, List.pairwise_cons, List.forall_mem_cons, List.not_mem_nil,
      false_implies, implies_true, and_true, List.Pairwise.nil]

/-- What the values given last make of the client's options. -/
def ClientOptions.given (o : ClientOptions) (ps : List (Bytes × Bytes)) : ClientOptions where
  classical :=
    { o.classical with
      host := (last (lit "--classical-host") ps).getD o.classical.host
      port := (last (lit "--classical-port") ps).getD o.classical.port }
  hybrid :=
    { o.hybrid with
      host := (last (lit "--hybrid-host") ps).getD o.hybrid.host
      port := (last (lit "--hybrid-port") ps).getD o.hybrid.port }
  hybridP256 :=
    { o.hybridP256 with
      host := (last (lit "--p256-host") ps).getD o.hybridP256.host
      port := (last (lit "--p256-port") ps).getD o.hybridP256.port }
  dashboardHost := (last (lit "--dashboard-host") ps).getD o.dashboardHost
  dashboardPort := (last (lit "--dashboard-port") ps).getD o.dashboardPort
  caFile := (last (lit "--cafile") ps).getD o.caFile
  iterations := (last (lit "--iterations") ps).elim o.iterations atoi
  warmup := (last (lit "--warmup") ps).elim o.warmup atoi
  runId := (last (lit "--run-id") ps).getD o.runId

/-- And of the server's. -/
def ServerOptions.given (o : ServerOptions) (ps : List (Bytes × Bytes)) : ServerOptions where
  port := (last (lit "--port") ps).elim o.port atoi
  group := (last (lit "--group") ps).getD o.group
  mode := (last (lit "--mode") ps).getD o.mode
  certificate := (last (lit "--cert") ps).getD o.certificate
  privateKey := (last (lit "--key") ps).getD o.privateKey
  dashboardHost := (last (lit "--dashboard-host") ps).getD o.dashboardHost
  dashboardPort := (last (lit "--dashboard-port") ps).getD o.dashboardPort

/-- Entry by entry, the values given last are those of the fields. -/
theorem lastOf_optionTable (o : ClientOptions) (ps : List (Bytes × Bytes)) :
    lastOf optionTable o ps = o.given ps := by
  simp only [lastOf, optionTable, List.foldl_cons, List.foldl_nil]
  rw [apply_getD (lit "--classical-host") (fun o : ClientOptions => o.classical.host)
      (fun v o => { o with classical.host := v }) fun _ => rfl,
    apply_getD (lit "--classical-port") (fun o : ClientOptions => o.classical.port)
      (fun v o => { o with classical.port := v }) fun _ => rfl,
    apply_getD (lit "--hybrid-host") (fun o : ClientOptions => o.hybrid.host)
      (fun v o => { o with hybrid.host := v }) fun _ => rfl,
    apply_getD (lit "--hybrid-port") (fun o : ClientOptions => o.hybrid.port)
      (fun v o => { o with hybrid.port := v }) fun _ => rfl,
    apply_getD (lit "--p256-host") (fun o : ClientOptions => o.hybridP256.host)
      (fun v o => { o with hybridP256.host := v }) fun _ => rfl,
    apply_getD (lit "--p256-port") (fun o : ClientOptions => o.hybridP256.port)
      (fun v o => { o with hybridP256.port := v }) fun _ => rfl,
    apply_getD (lit "--dashboard-host") ClientOptions.dashboardHost
      (fun v o => { o with dashboardHost := v }) fun _ => rfl,
    apply_getD (lit "--dashboard-port") ClientOptions.dashboardPort
      (fun v o => { o with dashboardPort := v }) fun _ => rfl,
    apply_getD (lit "--cafile") ClientOptions.caFile
      (fun v o => { o with caFile := v }) fun _ => rfl,
    apply_elim (lit "--iterations") ClientOptions.iterations
      (fun v o => { o with iterations := v }) atoi
      fun _ => rfl,
    apply_elim (lit "--warmup") ClientOptions.warmup (fun v o => { o with warmup := v }) atoi
      fun _ => rfl,
    apply_getD (lit "--run-id") ClientOptions.runId (fun v o => { o with runId := v }) fun _ => rfl]
  rfl

theorem lastOf_serverOptionTable (o : ServerOptions) (ps : List (Bytes × Bytes)) :
    lastOf serverOptionTable o ps = o.given ps := by
  simp only [lastOf, serverOptionTable, List.foldl_cons, List.foldl_nil]
  rw [apply_elim (lit "--port") ServerOptions.port (fun v o => { o with port := v }) atoi
      fun _ => rfl,
    apply_getD (lit "--group") ServerOptions.group (fun v o => { o with group := v }) fun _ => rfl,
    apply_getD (lit "--mode") ServerOptions.mode (fun v o => { o with mode := v }) fun _ => rfl,
    apply_getD (lit "--cert") ServerOptions.certificate
      (fun v o => { o with certificate := v }) fun _ => rfl,
    apply_getD (lit "--key") ServerOptions.privateKey
      (fun v o => { o with privateKey := v }) fun _ => rfl,
    apply_getD (lit "--dashboard-host") ServerOptions.dashboardHost
      (fun v o => { o with dashboardHost := v }) fun _ => rfl,
    apply_getD (lit "--dashboard-port") ServerOptions.dashboardPort
      (fun v o => { o with dashboardPort := v }) fun _ => rfl]
  rfl

/-! ### What a command line means -/

/-- The client reads its arguments as the values that the names are given last. -/
theorem parseArguments_eq_some {o o' : ClientOptions} {arguments : List Bytes} :
    parseArguments o arguments = some o' ↔
      ∃ ps, pairs arguments = some ps ∧ (∀ p ∈ ps, p.1 ∈ names optionTable) ∧ o' = o.given ps := by
  rw [parseArguments_eq, Option.bind_eq_some_iff]
  refine exists_congr fun ps => and_congr_right fun _ => ?_
  rw [assignAll_eq lawful_optionTable, lastOf_optionTable, Option.ite_none_right_eq_some,
    Option.some_inj, eq_comm]

/-- So does the server. -/
theorem parseServerArguments_eq_some {o o' : ServerOptions} {arguments : List Bytes} :
    parseServerArguments o arguments = some o' ↔
      ∃ ps, pairs arguments = some ps ∧ (∀ p ∈ ps, p.1 ∈ names serverOptionTable) ∧
        o' = o.given ps := by
  rw [parseServerArguments_eq, Option.bind_eq_some_iff]
  refine exists_congr fun ps => and_congr_right fun _ => ?_
  rw [assignAll_eq lawful_serverOptionTable, lastOf_serverOptionTable,
    Option.ite_none_right_eq_some, Option.some_inj, eq_comm]

/-- What the client checks when all is read. -/
def ClientOptions.InBounds (o : ClientOptions) : Prop :=
  (1 ≤ o.iterations ∧ o.iterations ≤ 1000000) ∧ (0 ≤ o.warmup ∧ o.warmup ≤ 100000) ∧
    validIdentifier o.runId

/-- What the server checks. -/
def ServerOptions.InBounds (o : ServerOptions) : Prop :=
  (1 ≤ o.port ∧ o.port ≤ 65535) ∧ validMode o.mode

theorem parseOptions_eq_some {generatedRunId : Bytes} {arguments : List Bytes}
    {o : ClientOptions} :
    parseOptions generatedRunId arguments = some o ↔
      parseArguments (.default generatedRunId) arguments = some o ∧ o.InBounds := by
  simp only [parseOptions, Option.bind_eq_bind, Option.bind_eq_some_iff]
  constructor
  · rintro ⟨o', hread, h⟩
    split at h
    · cases h
    next hcheck =>
      cases h
      simp only [Bool.or_eq_true, decide_eq_true_eq, Bool.not_eq_true', not_or, Bool.not_eq_false,
        Int.not_lt, gt_iff_lt] at hcheck
      obtain ⟨⟨⟨⟨h₁, h₂⟩, h₃⟩, h₄⟩, hid⟩ := hcheck
      exact ⟨hread, ⟨h₁, h₂⟩, ⟨h₃, h₄⟩, hid⟩
  · rintro ⟨hread, ⟨h₁, h₂⟩, ⟨h₃, h₄⟩, hid⟩
    refine ⟨o, hread, ?_⟩
    rw [if_neg]
    · rfl
    · simp only [Bool.or_eq_true, decide_eq_true_eq, Bool.not_eq_true', not_or, Bool.not_eq_false,
        Int.not_lt, gt_iff_lt]
      exact ⟨⟨⟨⟨h₁, h₂⟩, h₃⟩, h₄⟩, hid⟩

theorem parseServerOptions_eq_some {arguments : List Bytes} {o : ServerOptions} :
    parseServerOptions arguments = some o ↔
      parseServerArguments .default arguments = some o ∧ o.InBounds := by
  simp only [parseServerOptions, Option.bind_eq_bind, Option.bind_eq_some_iff]
  constructor
  · rintro ⟨o', hread, h⟩
    split at h
    · cases h
    next hcheck =>
      cases h
      simp only [Bool.or_eq_true, decide_eq_true_eq, Bool.not_eq_true', not_or, Bool.not_eq_false,
        Int.not_lt, gt_iff_lt] at hcheck
      obtain ⟨⟨h₁, h₂⟩, hmode⟩ := hcheck
      exact ⟨hread, ⟨h₁, h₂⟩, hmode⟩
  · rintro ⟨hread, ⟨h₁, h₂⟩, hmode⟩
    refine ⟨o, hread, ?_⟩
    rw [if_neg]
    · rfl
    · simp only [Bool.or_eq_true, decide_eq_true_eq, Bool.not_eq_true', not_or, Bool.not_eq_false,
        Int.not_lt, gt_iff_lt]
      exact ⟨⟨h₁, h₂⟩, hmode⟩

/-- **A command line is what its names are given last**: both programs accept exactly the lists
of known names, each with a value, whose last values – or the defaults where there are none –
are within the bounds, and take these as their options. -/
theorem options_given (generatedRunId : Bytes) (arguments : List Bytes) :
    (∀ o : ClientOptions, parseOptions generatedRunId arguments = some o ↔
      ∃ ps, pairs arguments = some ps ∧ (∀ p ∈ ps, p.1 ∈ names optionTable) ∧
        o = (ClientOptions.default generatedRunId).given ps ∧ o.InBounds) ∧
    ∀ o : ServerOptions, parseServerOptions arguments = some o ↔
      ∃ ps, pairs arguments = some ps ∧ (∀ p ∈ ps, p.1 ∈ names serverOptionTable) ∧
        o = ServerOptions.default.given ps ∧ o.InBounds := by
  refine ⟨fun o => ?_, fun o => ?_⟩
  · rw [parseOptions_eq_some, parseArguments_eq_some]
    simp only [← exists_and_right, and_assoc]
  · rw [parseServerOptions_eq_some, parseServerArguments_eq_some]
    simp only [← exists_and_right, and_assoc]

/-! ### The script in front of the benchmark -/

/-- The variables of the environment that the script looks at. -/
structure Variables where
  classicalHost : Option Bytes
  classicalPort : Option Bytes
  hybridHost : Option Bytes
  hybridPort : Option Bytes
  p256Host : Option Bytes
  p256Port : Option Bytes
  dashboardHost : Option Bytes
  dashboardPort : Option Bytes
  caFile : Option Bytes
  iterations : Option Bytes
  warmup : Option Bytes
  deriving DecidableEq, Repr

/-- An environment in which none of them is set. -/
def Variables.unset : Variables :=
  ⟨none, none, none, none, none, none, none, none, none, none, none⟩

/-- The value of a variable that is set, and not to the empty text. -/
def filled (value : Option Bytes) : Option Bytes := value.filter (· ≠ [])

/-- `${VARIABLE:-word}`. -/
def orWord (value : Option Bytes) (word : Bytes) : Bytes := (filled value).getD word

/-- What the script puts in front of its arguments. -/
def entrypointArguments (env : Variables) (arguments : List Bytes) : List Bytes :=
  [lit "--classical-host", orWord env.classicalHost (lit "classical-tls"),
    lit "--classical-port", orWord env.classicalPort (lit "4433"),
    lit "--hybrid-host", orWord env.hybridHost (lit "hybrid-tls"),
    lit "--hybrid-port", orWord env.hybridPort (lit "4434"),
    lit "--p256-host", orWord env.p256Host (lit "hybrid-p256-tls"),
    lit "--p256-port", orWord env.p256Port (lit "4435"),
    lit "--dashboard-host", orWord env.dashboardHost (lit "dashboard"),
    lit "--dashboard-port", orWord env.dashboardPort (lit "8000"),
    lit "--cafile", orWord env.caFile (lit "/opt/tls/certs/server.crt"),
    lit "--iterations", orWord env.iterations (lit "100"),
    lit "--warmup", orWord env.warmup (lit "10")] ++ arguments

/-- The options with the variables in place of what they stand for. -/
def Variables.defaults (env : Variables) (o : ClientOptions) : ClientOptions :=
  { o with
    classical :=
      { o.classical with
        host := orWord env.classicalHost o.classical.host
        port := orWord env.classicalPort o.classical.port }
    hybrid :=
      { o.hybrid with
        host := orWord env.hybridHost o.hybrid.host
        port := orWord env.hybridPort o.hybrid.port }
    hybridP256 :=
      { o.hybridP256 with
        host := orWord env.p256Host o.hybridP256.host
        port := orWord env.p256Port o.hybridP256.port }
    dashboardHost := orWord env.dashboardHost o.dashboardHost
    dashboardPort := orWord env.dashboardPort o.dashboardPort
    caFile := orWord env.caFile o.caFile
    iterations := (filled env.iterations).elim o.iterations atoi
    warmup := (filled env.warmup).elim o.warmup atoi }

/-- A number in a variable, or in the word for it. -/
theorem atoi_orWord (value : Option Bytes) (word : Bytes) :
    atoi (orWord value word) = (filled value).elim (atoi word) atoi := by
  unfold orWord
  cases filled value with
  | none => rfl
  | some _ => rfl

/-- What the script puts in front is read first. -/
theorem parseArguments_entrypoint (env : Variables) (generatedRunId : Bytes)
    (arguments : List Bytes) :
    parseArguments (.default generatedRunId) (entrypointArguments env arguments) =
      parseArguments (env.defaults (.default generatedRunId)) arguments := by
  have hiterations : (ClientOptions.default generatedRunId).iterations = atoi (lit "100") :=
    show (100 : ℤ) = atoi (lit "100") by decide +kernel
  have hwarmup : (ClientOptions.default generatedRunId).warmup = atoi (lit "10") :=
    show (10 : ℤ) = atoi (lit "10") by decide +kernel
  rw [Variables.defaults, hiterations, hwarmup, ← atoi_orWord, ← atoi_orWord]
  rfl

/-- **The variables are the defaults of the benchmark**: started by the script, it reads its
arguments on top of the variables that are set and not empty, and of its own defaults for the
others; with no variable set the script changes nothing. -/
theorem entrypoint_options (generatedRunId : Bytes) (arguments : List Bytes) :
    (∀ (env : Variables) (o : ClientOptions),
      parseOptions generatedRunId (entrypointArguments env arguments) = some o ↔
        ∃ ps, pairs arguments = some ps ∧ (∀ p ∈ ps, p.1 ∈ names optionTable) ∧
          o = (env.defaults (.default generatedRunId)).given ps ∧ o.InBounds) ∧
    parseOptions generatedRunId (entrypointArguments .unset arguments) =
      parseOptions generatedRunId arguments := by
  refine ⟨fun env o => ?_, ?_⟩
  · rw [parseOptions_eq_some, parseArguments_entrypoint, parseArguments_eq_some]
    simp only [← exists_and_right, and_assoc]
  · rw [parseOptions, parseArguments_entrypoint]
    rfl

end HybridTls

import HybridTls.Tls.Common

/-!
# The benchmark client's options

`parse_options` of the benchmark client: a list of pairs of a name and a value,
applied in turn to the defaults, and then checked as a whole.

What it accepts is `HybridTls.ClientOptions.Accepted`
(`HybridTls.accepted_of_parseOptions`): the bounds it checks, and that no option
touches the modes and the groups of the three endpoints.
-/

namespace HybridTls

/-- `Endpoint`. -/
structure Endpoint where
  host : Bytes
  port : Bytes
  group : Bytes
  mode : Bytes
  deriving DecidableEq, Repr

/-- `ClientOptions`. -/
structure ClientOptions where
  classical : Endpoint
  hybrid : Endpoint
  hybridP256 : Endpoint
  dashboardHost : Bytes
  dashboardPort : Bytes
  caFile : Bytes
  runId : Bytes
  iterations : ℤ
  warmup : ℤ
  deriving DecidableEq, Repr

/-- The options before the first argument is read. -/
def ClientOptions.default (generatedRunId : Bytes) : ClientOptions where
  classical :=
    { host := lit "classical-tls", port := lit "4433", group := lit "X25519"
      mode := lit "classical" }
  hybrid :=
    { host := lit "hybrid-tls", port := lit "4434", group := lit "X25519MLKEM768"
      mode := lit "hybrid" }
  hybridP256 :=
    { host := lit "hybrid-p256-tls", port := lit "4435", group := lit "SecP256r1MLKEM768"
      mode := lit "hybrid_p256" }
  dashboardHost := lit "dashboard"
  dashboardPort := lit "8000"
  caFile := lit "/opt/tls/certs/server.crt"
  runId := generatedRunId
  iterations := 100
  warmup := 10

/-- The options, in the order in which `parse_options` compares their names. -/
def optionTable : List (Bytes × (Bytes → ClientOptions → ClientOptions)) :=
  [(lit "--classical-host", fun value o => { o with classical.host := value }),
    (lit "--classical-port", fun value o => { o with classical.port := value }),
    (lit "--hybrid-host", fun value o => { o with hybrid.host := value }),
    (lit "--hybrid-port", fun value o => { o with hybrid.port := value }),
    (lit "--p256-host", fun value o => { o with hybridP256.host := value }),
    (lit "--p256-port", fun value o => { o with hybridP256.port := value }),
    (lit "--dashboard-host", fun value o => { o with dashboardHost := value }),
    (lit "--dashboard-port", fun value o => { o with dashboardPort := value }),
    (lit "--cafile", fun value o => { o with caFile := value }),
    (lit "--iterations", fun value o => { o with iterations := atoi value }),
    (lit "--warmup", fun value o => { o with warmup := atoi value }),
    (lit "--run-id", fun value o => { o with runId := value })]

/-- Apply one option: none if there is no such name. -/
def ClientOptions.set (o : ClientOptions) (name value : Bytes) : Option ClientOptions :=
  (optionTable.find? fun option => option.1 = name).map fun option => option.2 value o

/-- The loop of `parse_options` over the arguments behind the program's name. -/
def parseArguments (o : ClientOptions) : List Bytes → Option ClientOptions
  | [] => some o
  -- no name is looked at without a value behind it
  | [_] => none
  | name :: value :: rest => (o.set name value).bind (parseArguments · rest)

/-- `parse_options`, with what `default_run_id` generated. -/
def parseOptions (generatedRunId : Bytes) (arguments : List Bytes) : Option ClientOptions := do
  let o ← parseArguments (.default generatedRunId) arguments
  if o.iterations < 1 || o.iterations > 1000000 || o.warmup < 0 || o.warmup > 100000 ||
      !validIdentifier o.runId then none
  return o

/-- The endpoint of a mode. -/
def ClientOptions.endpoint (o : ClientOptions) : Mode → Endpoint
  | .classical => o.classical
  | .hybrid => o.hybrid
  | .hybridP256 => o.hybridP256

/-- The group a mode stands for. -/
def Mode.group : Mode → Bytes
  | .classical => lit "X25519"
  | .hybrid => lit "X25519MLKEM768"
  | .hybridP256 => lit "SecP256r1MLKEM768"

/-- **What `parse_options` accepts**: the bounds it checks, and the modes and
groups of the defaults. -/
structure ClientOptions.Accepted (o : ClientOptions) : Prop where
  iterations : 1 ≤ o.iterations ∧ o.iterations ≤ 1000000
  warmup : 0 ≤ o.warmup ∧ o.warmup ≤ 100000
  runId : validIdentifier o.runId
  mode : ∀ m, (o.endpoint m).mode = lit m.text
  group : ∀ m, (o.endpoint m).group = m.group

section Parse

variable {o o' : ClientOptions}

/-- No option touches a mode or a group. -/
theorem set_mode_group {name value : Bytes} (h : o.set name value = some o') (m : Mode) :
    (o'.endpoint m).mode = (o.endpoint m).mode ∧ (o'.endpoint m).group = (o.endpoint m).group := by
  -- entry by entry: the updates are of other fields
  have hall : ∀ option ∈ optionTable,
      ((option.2 value o).endpoint m).mode = (o.endpoint m).mode ∧
        ((option.2 value o).endpoint m).group = (o.endpoint m).group := by
    simp only [optionTable, List.forall_mem_cons, List.not_mem_nil, false_implies, implies_true,
      and_true]
    cases m <;> exact ⟨⟨rfl, rfl⟩, ⟨rfl, rfl⟩, ⟨rfl, rfl⟩, ⟨rfl, rfl⟩, ⟨rfl, rfl⟩, ⟨rfl, rfl⟩,
      ⟨rfl, rfl⟩, ⟨rfl, rfl⟩, ⟨rfl, rfl⟩, ⟨rfl, rfl⟩, ⟨rfl, rfl⟩, ⟨rfl, rfl⟩⟩
  obtain ⟨option, hfind, rfl⟩ := Option.map_eq_some_iff.mp h
  exact hall option (List.mem_of_find?_eq_some hfind)

theorem parseArguments_mode_group {arguments : List Bytes}
    (h : parseArguments o arguments = some o') (m : Mode) :
    (o'.endpoint m).mode = (o.endpoint m).mode ∧ (o'.endpoint m).group = (o.endpoint m).group := by
  induction o, arguments using parseArguments.induct with
  | case1 o =>
    cases h
    exact ⟨rfl, rfl⟩
  | case2 => cases h
  | case3 o name value rest ih =>
    obtain ⟨o₁, hset, hrest⟩ := Option.bind_eq_some_iff.mp h
    obtain ⟨hmode, hgroup⟩ := ih o₁ hrest
    obtain ⟨hmode', hgroup'⟩ := set_mode_group hset m
    exact ⟨hmode.trans hmode', hgroup.trans hgroup'⟩

theorem accepted_of_parseOptions {generatedRunId : Bytes} {arguments : List Bytes}
    (h : parseOptions generatedRunId arguments = some o) : o.Accepted := by
  simp only [parseOptions, Option.bind_eq_bind, Option.bind_eq_some_iff, Option.pure_def] at h
  obtain ⟨o', hargs, h⟩ := h
  split at h
  · simp at h
  next hcheck =>
    obtain rfl : o' = o := by simpa using h
    simp only [Bool.or_eq_true, decide_eq_true_eq, Bool.not_eq_true', not_or, Bool.not_eq_false,
      Int.not_lt, gt_iff_lt] at hcheck
    obtain ⟨⟨⟨⟨h₁, h₂⟩, h₃⟩, h₄⟩, hid⟩ := hcheck
    have hkept := parseArguments_mode_group hargs
    exact ⟨⟨h₁, h₂⟩, ⟨h₃, h₄⟩, hid, fun m => (hkept m).1.trans (by cases m <;> rfl),
      fun m => (hkept m).2.trans (by cases m <;> rfl)⟩

end Parse

end HybridTls

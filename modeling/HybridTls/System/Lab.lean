import HybridTls.System.Messages
import HybridTls.Tls.Agreement
import HybridTls.Tls.Schedule
import Mathlib.Logic.Function.Basic

/-!
# The lab

The whole system: any number of benchmark clients, the three TLS servers, and the
dashboard, which all of them post to.

A client is `main` between two messages: it creates its run, makes its probes one after the
other and reports each of them that is to be recorded, and completes the run
(`HybridTls.ClientStage`). A server that has served a connection posts what it has measured
some time later, when the client has long gone on; until then the measurement is pending. So
the dashboard hears of a sample twice, in either order, with anything in between, and any of
the messages may be lost on the way, and so may the answers (`HybridTls.Posting`).

The lab is a machine (`HybridTls.lab`). Its inputs say which of the parties goes on and what
it meets (`HybridTls.Action`); one that cannot go on stays where it is. So a run of the
machine is an interleaving of the parties, and what holds after every run holds whatever the
order of the steps was.
-/

namespace HybridTls

open Json Transition

/-! ### The parties -/

/-- **What the lab is made of**, when it is started. -/
structure Setup (ι : Type) where
  /-- What `iso_now` reads on the dashboard's host. -/
  clock : ℕ → Timestamp
  servers : Mode → ServerOptions
  clients : ι → ClientOptions
  /-- What OpenSSL calls its version, on each client's host. -/
  version : ι → Bytes

/-- A probe that has been made, and what the server made of the connection. -/
structure Probe (ι : Type) extends Issued where
  client : ι
  served : Option Served

/-- **Where a client is** between two messages. -/
inductive ClientStage (ι : Type) where
  /-- In front of the message that creates the run. -/
  | starting
  /-- In front of the next probe, or of the message that completes the run. -/
  | probing (rest : List Turn)
  /-- In front of the call of `record_client` for a probe. -/
  | reporting (x : Probe ι) (rest : List Turn)
  | finished (code : ℤ)

/-- The exit code of a client, when it has one. -/
def ClientStage.exitCode? {ι : Type} : ClientStage ι → Option ℤ
  | .finished code => some code
  | _ => none

theorem ClientStage.exitCode?_eq_some_iff {ι : Type} {stage : ClientStage ι} {code : ℤ} :
    stage.exitCode? = some code ↔ stage = .finished code := by
  cases stage <;> simp [exitCode?]

/-- A client: where it is, and its variable `failures`. -/
structure Client (ι : Type) where
  stage : ClientStage ι
  failures : ℕ

/-- **The state of the lab.** The history is the list of the posts that the dashboard has
accepted, and the log the list of the probes that have been made. -/
structure Lab (ι : Type) where
  world : World
  history : List Post
  clients : ι → Client ι
  log : List (Probe ι)
  /-- What the servers have measured and not yet posted. -/
  pending : List (Mode × Served)

/-! ### What they meet -/

/-- **What a message meets**: the network, the dashboard and its database, and the network
again. -/
structure Posting where
  /-- `tcp_connect_host`. -/
  tcpConnect : Except Bytes ℕ
  /-- What the calls of `send` return. -/
  sends : List ℤ
  /-- Whether the dashboard processes what has arrived. -/
  processed : Bool
  /-- The external failures of its database calls. -/
  fault : ℕ → Option DbError
  /-- What the answer has besides its status code. -/
  reason : Bytes
  rest : Bytes
  /-- How much of the answer there is when `recv` is called: none when it fails. -/
  arrived : Option ℕ

/-- Whether the dashboard processes a message. It waits for the body, unless the route reads
none. -/
def Posting.delivers (p : Posting) (host : Bytes) (m : Message) : Bool :=
  let w := writeRequest host m.path m.body p.sends
  (p.tcpConnect matches .ok _) && p.processed &&
    (w.ok || (completedRun m.path).isSome &&
      (headerText host m.path m.body).isPrefixOf w.accepted)

/-- What `post_json` meets, if the dashboard answers with a status code or not at all. -/
def Posting.env (p : Posting) (status : Option Bytes) : PostEnv where
  tcpConnect := p.tcpConnect
  sends := p.sends
  arrived := status.elim (some []) fun status =>
    p.arrived.map fun n => (answerText status p.reason p.rest).take n

/-- **Which party goes on**, and what it meets. -/
inductive Action (ι : Type) where
  | create (i : ι) (p : Posting)
  /-- A probe; the server has the connection, if it comes to that. -/
  | probe (i : ι) (env : ProbeEnv) (server : Option ServerEnv)
  | report (i : ι) (p : Posting)
  | complete (i : ι) (p : Posting)
  /-- A server posts one of the measurements that are pending. -/
  | serverPost (k : ℕ) (p : Posting)

/-! ### The steps -/

section Steps

variable {ι : Type} [DecidableEq ι] (L : Setup ι)

/-- What both loops of `main` probe. -/
def ClientOptions.schedule (options : ClientOptions) : List Turn :=
  warmUpTurns options.warmup.toNat ++ measuredTurns options.iterations.toNat

/-- A message is sent, and the dashboard processes it, if it does: what `post_json` returns,
and the lab behind it. -/
def Lab.post (s : Lab ι) (p : Posting) (host : Bytes) (m : Message) : ℤ × Lab ι :=
  if p.delivers host m then
    ((postJson (p.env (some (answerStatus L.clock s.world m p.fault))) host m.path m.body).code,
      { s with
        world := process L.clock s.world m p.fault
        history := s.history ++ (addedPost L.clock s.world m p.fault).toList })
  else ((postJson (p.env none) host m.path m.body).code, s)

/-- A client goes to another stage. -/
def Lab.goto (s : Lab ι) (i : ι) (stage : ClientStage ι) : Lab ι :=
  { s with clients := Function.update s.clients i { s.clients i with stage } }

/-- The probe of a client. What the server reads is what the client has written. -/
def Setup.probeOf (i : ι) (t : Turn) (env : ProbeEnv) (server : Option ServerEnv) : Probe ι :=
  let options := L.clients i
  let result := HybridTls.probe env options (options.endpoint t.mode) t.sequence t.record
  { toTurn := t
    result := result
    client := i
    served := server.bind fun e => handleConnection { e with request := result.request } }

/-- What the server will post of a probe. -/
def Probe.toPost (x : Probe ι) : Option Served := x.served.filter (·.recordSample)

/-- A probe has been made: it is in the log, and what the server has measured is pending. -/
def Lab.probed (s : Lab ι) (x : Probe ι) (rest : List Turn) : Lab ι :=
  { s with
    clients := Function.update s.clients x.client
      { stage := if x.record then .reporting x rest else .probing rest
        failures := if x.record ∧ x.result.code ≠ 0 then (s.clients x.client).failures + 1
          else (s.clients x.client).failures }
    log := s.log ++ [x]
    pending := s.pending ++ x.toPost.toList.map fun y => (x.mode, y) }

/-- The exit code of `main`, behind its loops. -/
def exitCode (failures : ℕ) : ℤ := if failures = 0 then 0 else 1

/-- **One step of the lab.** -/
def Lab.step (s : Lab ι) : Action ι → Lab ι
  | .create i p =>
    match (s.clients i).stage with
    | .starting =>
      let (code, s') := s.post L p (L.clients i).dashboardHost
        ((L.clients i).runMessage (L.version i))
      s'.goto i (if code = 0 then .probing (L.clients i).schedule else .finished 1)
    | _ => s
  | .probe i env server =>
    match (s.clients i).stage with
    | .probing (t :: rest) => s.probed (L.probeOf i t env server) rest
    | _ => s
  | .report i p =>
    match (s.clients i).stage with
    | .reporting x rest =>
      -- `record_client` ignores what `post_json` returns
      (x.result.posted.elim s fun v =>
        (s.post L p (L.clients i).dashboardHost v.message).2).goto i (.probing rest)
    | _ => s
  | .complete i p =>
    match (s.clients i).stage with
    | .probing [] =>
      -- and so does `main`, here
      (s.post L p (L.clients i).dashboardHost (L.clients i).completeMessage).2.goto i
        (.finished (exitCode (s.clients i).failures))
    | _ => s
  | .serverPost k p =>
    match s.pending[k]? with
    | some (m, y) =>
      (Lab.post L { s with pending := s.pending.eraseIdx k } p (L.servers m).dashboardHost
        (y.message (L.servers m))).2
    | none => s

/-- **The lab**, with an empty store, and with all of its clients in front of their first
message. -/
def lab : Machine (Lab ι) (Action ι) where
  init :=
    { world := ⟨.empty, 0⟩
      history := []
      clients := fun _ => ⟨.starting, 0⟩
      log := []
      pending := [] }
  step := Lab.step L

end Steps

/-! ### What is assumed -/

/-- The names that OpenSSL gives need no escaping. -/
structure NamesPlain (groupName : Option Bytes) (version cipherName : Bytes) : Prop where
  groupName : ∀ g ∈ groupName, ∀ b ∈ g, isPlain b
  version : ∀ b ∈ version, isPlain b
  cipherName : ∀ b ∈ cipherName, isPlain b

/-- On both sides of a probe. -/
def Action.Plain {ι : Type} : Action ι → Prop
  | .probe _ env server => NamesPlain env.groupName env.version env.cipherName ∧
      ∀ e ∈ server, NamesPlain e.groupName e.version e.cipherName
  | _ => True

/-- The first segment of the dashboard's answer tells what the status code is, whichever it
is. -/
def Posting.Tells (p : Posting) : Prop :=
  ∀ n ∈ p.arrived, ∀ status ∈ answerStatuses,
    TellsStatus status ((answerText status p.reason p.rest).take n)

/-- To the client that creates a run. -/
def Action.Tells {ι : Type} : Action ι → Prop
  | .create _ p => p.Tells
  | _ => True

/-- **The lab is set up as it should be**: the servers for the modes and their groups, and
the clients with runs of their own, which the dashboard accepts. -/
structure Setup.Sound {ι : Type} (L : Setup ι) : Prop where
  serverOptions : ∀ m, ∃ arguments, parseServerOptions arguments = some (L.servers m)
  serverMode : ∀ m, (L.servers m).mode = lit m.text
  serverGroup : ∀ m, (L.servers m).group = m.group
  options : ∀ i, ∃ generatedRunId arguments,
    parseOptions generatedRunId arguments = some (L.clients i)
  runId : ∀ i, IsIdentifier 120 (text (L.clients i).runId)
  hosts : ∀ i m, IsHostName ((L.clients i).endpoint m).host
  distinct : ∀ i j, (L.clients i).runId = (L.clients j).runId → i = j

/-- The servers of the deployment. -/
def composeServers : Mode → ServerOptions
  | .classical => .default
  | .hybrid => { ServerOptions.default with port := 4434, group := lit "X25519MLKEM768",
                                            mode := lit "hybrid" }
  | .hybridP256 => { ServerOptions.default with port := 4435, group := lit "SecP256r1MLKEM768",
                                                mode := lit "hybrid_p256" }

/-- The arguments the deployment gives to the server of a mode. -/
def composeArguments (m : Mode) : List Bytes :=
  [lit "--port", lit (match m with
      | .classical => "4433"
      | .hybrid => "4434"
      | .hybridP256 => "4435"),
    lit "--group", m.group, lit "--mode", lit m.text, lit "--cert", lit "/opt/tls/certs/server.crt",
    lit "--key", lit "/opt/tls/certs/server.key", lit "--dashboard-host", lit "dashboard",
    lit "--dashboard-port", lit "8000"]

theorem parseServerOptions_compose (m : Mode) :
    parseServerOptions (composeArguments m) = some (composeServers m) := by
  cases m <;> decide +kernel

/-- A client of the deployment that makes one iteration and no warm-up. -/
def composeClient (runId : Bytes) : ClientOptions :=
  { ClientOptions.default runId with iterations := 1, warmup := 0 }

/-- Two of them in the deployment. -/
def composeSetup : Setup Bool where
  clock := fun _ => "2026-01-01T00:00:00.000+00:00"
  servers := composeServers
  clients := fun i => composeClient (lit (if i then "run-1" else "run-2"))
  version := fun _ => lit "OpenSSL 3.5.0 8 Apr 2025"

theorem sound_composeSetup : composeSetup.Sound where
  serverOptions m := ⟨_, parseServerOptions_compose m⟩
  serverMode m := by cases m <;> rfl
  serverGroup m := by cases m <;> rfl
  options i := by
    refine ⟨lit (if i then "run-1" else "run-2"),
      [lit "--iterations", lit "1", lit "--warmup", lit "0"], ?_⟩
    cases i <;> decide +kernel
  runId i := by cases i <;> decide +kernel
  hosts i m := by cases i <;> cases m <;> constructor <;> decide +kernel
  distinct i j := by cases i <;> cases j <;> decide +kernel

/-- A message that arrives as a whole, and is answered in one piece. -/
def Posting.smooth : Posting where
  tcpConnect := .ok 3
  sends := [100000, 100000]
  processed := true
  fault := fun _ => none
  reason := lit "Created"
  rest := lit "content-type: application/json\r\n\r\n"
  arrived := some 100

theorem tells_smooth : Posting.smooth.Tells := by
  rintro _ ⟨⟩
  unfold TellsStatus
  decide +kernel

/-- A probe of the deployment that goes well. -/
def Action.goesWell (i : Bool) (m : Mode) : Action Bool :=
  .probe i { answered with groupName := some m.group } (some (.receiving 1500 []))

/-- One client makes its run, while the other one makes its first probe and the servers post
what they have measured in another order. -/
def composeRun : List (Action Bool) :=
  [.create true .smooth, .create false .smooth, .goesWell true .classical, .report true .smooth,
    .goesWell false .classical, .goesWell true .hybrid, .serverPost 2 .smooth,
    .report true .smooth, .goesWell true .hybridP256, .report true .smooth, .serverPost 0 .smooth,
    .complete true .smooth, .serverPost 0 .smooth]

theorem plain_goesWell (i : Bool) (m : Mode) : (Action.goesWell i m).Plain := by
  have hversion : ∀ b ∈ answered.version, isPlain b := by decide +kernel
  have hcipher : ∀ b ∈ answered.cipherName, isPlain b := by decide +kernel
  have hserver : ∀ b ∈ lit "X25519", isPlain b := by decide +kernel
  refine ⟨⟨fun g hg => ?_, hversion, hcipher⟩, fun e he => ?_⟩
  · obtain rfl : m.group = g := Option.some.inj hg
    exact (isPlain_group m).2
  · obtain rfl : ServerEnv.receiving 1500 [] = e := Option.some.inj he
    refine ⟨fun g hg => ?_, hversion, hcipher⟩
    obtain rfl : lit "X25519" = g := Option.some.inj hg
    exact hserver

theorem plain_composeRun : ∀ a ∈ composeRun, a.Plain := by
  intro a ha
  simp only [composeRun, List.mem_cons, List.not_mem_nil, or_false] at ha
  rcases ha with rfl | rfl | rfl | rfl | rfl | rfl | rfl | rfl | rfl | rfl | rfl | rfl | rfl
  · trivial
  · trivial
  · exact plain_goesWell true .classical
  · trivial
  · exact plain_goesWell false .classical
  · exact plain_goesWell true .hybrid
  · trivial
  · trivial
  · exact plain_goesWell true .hybridP256
  all_goals trivial

theorem tells_composeRun : ∀ a ∈ composeRun, a.Tells := by
  intro a ha
  simp only [composeRun, List.mem_cons, List.not_mem_nil, or_false] at ha
  rcases ha with rfl | rfl | rfl | rfl | rfl | rfl | rfl | rfl | rfl | rfl | rfl | rfl | rfl
  · exact tells_smooth
  · exact tells_smooth
  all_goals trivial

end HybridTls

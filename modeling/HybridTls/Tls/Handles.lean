import HybridTls.Tls.RunBody
import HybridTls.Tls.Schedule
import HybridTls.Tls.Sockets

/-!
# What the client acquires

`main` of the benchmark client with all that it acquires: a TLS context for each mode, a
TLS connection for each probe that gets as far, and the descriptors of the probes and of the
posts.

A probe frees its connection behind the label `finished` if the pointer is not null, and this
is so exactly if `SSL_new` has returned one (`HybridTls.ssl_finished`), whichever way the
probe got there. So no probe leaves anything behind (`HybridTls.ProbeCall.holds_handles`),
and none of the exits of `main` does (`HybridTls.client_releases`): not the two on which the
benchmark is given up, where some of the contexts may be missing, nor the last. At no time
are there more than five handles, however many probes are made.
-/

namespace HybridTls

open Ledger Raising

/-- Something that is acquired and has to be released. -/
inductive Handle where
  | descriptor (fd : ℤ)
  | ssl (number : ℕ)
  | context (number : ℕ)
  deriving DecidableEq

/-- What calls that have to do with descriptors do to the handles. -/
def onDescriptors (calls : List SocketCall) : List (Ledger.Event Handle) :=
  (events calls).map (Ledger.Event.map .descriptor)

/-! ### The code -/

/-- What `probe` meets, the connection being what `tcp_connect_host` returns. -/
def ProbeCall.meets (c : ProbeCall) : ProbeEnv :=
  { c.env with tcpConnect := (tcpConnectHost c.net).result }

/-- The connection of a probe: `SSL_new` is called if there is a descriptor, and
`number` is what it returns if it returns something. Behind the label it is freed if the
variable `ssl` is not null, and then the descriptor is closed. -/
def ProbeCall.handles (c : ProbeCall) (number : ℕ) : List (Ledger.Event Handle) :=
  onDescriptors (tcpConnectCalls c.net).2 ++
    (match c.meets.tcpConnect with
      | .error _ => []
      | .ok _ => if c.meets.sslNew then [.acquire (.ssl number)] else []) ++
    (if (finished c.meets c.options c.endpoint c.sequence c.record).ssl then
      [.release (.ssl number)]
    else []) ++
    onDescriptors (c.result.closed.map fun fd : ℕ => .close fd) ++
    match c.result.posted with
    | none => []
    | some v => onDescriptors (postJsonCalls c.dashboard c.sends c.arrived
        c.options.dashboardHost (lit "/api/measurements/client") v.json).2

/-- **What `create_context` meets**: what `SSL_CTX_new` returns, and how the calls that
configure the context end. -/
structure ContextEnv where
  new : Option ℕ
  configured : List Bool

/-- `create_context`: what it returns. -/
def ContextEnv.context (env : ContextEnv) : Option ℕ :=
  env.new.filter fun _ => env.configured.all id

/-- `create_context`: a context that could not be configured is freed. -/
def ContextEnv.handles (env : ContextEnv) : List (Ledger.Event Handle) :=
  match env.new with
  | none => []
  | some context =>
    if env.configured.all id then [.acquire (.context context)]
    else [.acquire (.context context), .release (.context context)]

/-- `SSL_CTX_free`, which does nothing if there is no context. -/
def freeContext : Option ℕ → List (Ledger.Event Handle)
  | none => []
  | some context => [.release (.context context)]

/-- **What a call of `post_json` meets.** -/
structure PostCall where
  net : ConnectEnv
  sends : List ℤ
  arrived : Option Bytes

/-- A call of `post_json`. -/
def PostCall.calls (c : PostCall) (options : ClientOptions) (path json : Bytes) :
    ℤ × List SocketCall :=
  postJsonCalls c.net c.sends c.arrived options.dashboardHost path json

/-- **What a probe and its post meet**, and the connection that `SSL_new` returns. -/
structure ProbeMeets where
  net : ConnectEnv
  env : ProbeEnv
  dashboard : ConnectEnv
  sends : List ℤ
  arrived : Option Bytes
  ssl : ℕ

/-- The call of `probe` in a turn. -/
def ProbeMeets.call (p : ProbeMeets) (options : ClientOptions) (t : Turn) : ProbeCall where
  net := p.net
  env := p.env
  dashboard := p.dashboard
  sends := p.sends
  arrived := p.arrived
  options := options
  endpoint := options.endpoint t.mode
  sequence := t.sequence
  record := t.record

/-- **What the process meets.** -/
structure ClientEnv where
  generatedRunId : Bytes
  contexts : Mode → ContextEnv
  /-- `OpenSSL_version`. -/
  version : Bytes
  /-- The post that creates the run. -/
  run : PostCall
  /-- What the probes meet, one after the other. -/
  probes : ℕ → ProbeMeets
  /-- The post that completes it. -/
  complete : PostCall

/-- What the loops meet. -/
def ClientEnv.probeEnvs (env : ClientEnv) (k : ℕ) : ProbeEnv :=
  { (env.probes k).env with tcpConnect := (tcpConnectHost (env.probes k).net).result }

/-- The calls of `probe` that the loops make, from the `k`-th on. -/
def ClientEnv.probeHandles (env : ClientEnv) (options : ClientOptions) (issued : List Issued) :
    List (Ledger.Event Handle) :=
  issued.zipIdx.flatMap fun (e, k) =>
    ((env.probes k).call options e.toTurn).handles (env.probes k).ssl

/-- `main`: the exit code, and what is acquired and released on the way. -/
def clientMain (env : ClientEnv) (arguments : List Bytes) : ℤ × List (Ledger.Event Handle) :=
  match parseOptions env.generatedRunId arguments with
  | none => (2, []) -- the usage
  | some options =>
    let classical := (env.contexts .classical).context
    let hybrid := (env.contexts .hybrid).context
    let hybridP256 := (env.contexts .hybridP256).context
    let created := (env.contexts .classical).handles ++ (env.contexts .hybrid).handles ++
      (env.contexts .hybridP256).handles
    if classical.isNone || hybrid.isNone || hybridP256.isNone then
      (1, created ++ freeContext classical ++ freeContext hybrid ++ freeContext hybridP256)
    else
      let run := env.run.calls options (lit "/api/runs") (options.runJson env.version)
      if run.1 ≠ 0 then
        (1, created ++ onDescriptors run.2 ++ freeContext classical ++ freeContext hybrid ++
          freeContext hybridP256)
      else
        let p := benchmark env.probeEnvs options
        let complete := env.complete.calls options options.completePath (lit "\x7b\x7d")
        (if p.failures = 0 then 0 else 1,
          created ++ onDescriptors run.2 ++ env.probeHandles options p.issued ++
            onDescriptors complete.2 ++ freeContext classical ++ freeContext hybrid ++
            freeContext hybridP256)

/-- What `HybridTls.main` meets in this process. -/
def ClientEnv.mainEnv (env : ClientEnv) (arguments : List Bytes) : MainEnv where
  generatedRunId := env.generatedRunId
  contexts := endpoints.all fun m => (env.contexts m).context.isSome
  runCreated :=
    match parseOptions env.generatedRunId arguments with
    | none => false
    | some options =>
      (env.run.calls options (lit "/api/runs") (options.runJson env.version)).1 = 0
  probes := env.probeEnvs

/-- **The exit code is that of the loops.** -/
theorem clientMain_fst (env : ClientEnv) (arguments : List Bytes) :
    (clientMain env arguments).1 = (main (env.mainEnv arguments) arguments).1 := by
  unfold clientMain main ClientEnv.mainEnv
  rcases hparse : parseOptions env.generatedRunId arguments with _ | options
  · rfl
  simp only [endpoints, List.all_cons, List.all_nil, Bool.and_true]
  rcases (env.contexts .classical).context with _ | classical
  · rfl
  rcases (env.contexts .hybrid).context with _ | hybrid
  · rfl
  rcases (env.contexts .hybridP256).context with _ | hybridP256
  · rfl
  by_cases hrun : (env.run.calls options (lit "/api/runs") (options.runJson env.version)).1 = 0
  · simp [hrun]
  · simp [hrun]

/-! ### Descriptors -/

/-- **The loop of `tcp_connect_host` has one descriptor at a time.** -/
theorem within_connectCalls (results : List Address) :
    Within 1 (events (connectCalls (-1) results).2) := by
  induction results with
  | nil => exact within_nil.mono (Nat.zero_le 1)
  | cons current rest ih =>
    rw [connectCalls_cons]
    rcases current.socket with _ | fd
    · exact ih
    have hopen : (SocketCall.socket current fd).events = [.acquire (fd : ℤ)] := by
      rw [SocketCall.events, if_pos (Int.natCast_nonneg fd)]
    rcases current.connects with _ | _
    · -- this one is closed before the next is opened
      have hclosed : Holds 1 0 (events [.socket current fd, .connect fd false, .close fd]) := by
        rw [events, List.flatMap_cons, hopen]
        exact (holds_acquire (fd : ℤ)).release
      show Within 1 (events ([.socket current fd, .connect fd false, .close fd] ++
        (connectCalls (-1) rest).2))
      rw [events, List.flatMap_append]
      exact hclosed.within.append hclosed.leaves ih (by simp)
    · show Within 1 (events [.socket current fd, .connect fd true])
      rw [events, List.flatMap_cons, hopen]
      exact within_acquire _

theorem holds_tcpConnectCalls (net : ConnectEnv) :
    Holds 1 (if 0 ≤ (tcpConnectCalls net).1 then {(tcpConnectCalls net).1} else 0)
      (events (tcpConnectCalls net).2) := by
  refine ⟨leaves_tcpConnectCalls net, ?_⟩
  unfold tcpConnectCalls
  cases net.addresses with
  | error status => exact within_nil.mono (Nat.zero_le 1)
  | ok results => exact within_connectCalls results

/-- What `tcp_connect_host` leaves behind, among the handles. -/
def connected (net : ConnectEnv) : Multiset Handle :=
  (tcpConnectHost net).result.toOption.elim 0 fun fd => {.descriptor fd}

theorem holds_connected (net : ConnectEnv) :
    Holds 1 (connected net) (onDescriptors (tcpConnectCalls net).2) := by
  have hmap := (holds_tcpConnectCalls net).map Handle.descriptor
  have hleft : (if 0 ≤ (tcpConnectCalls net).1 then ({(tcpConnectCalls net).1} : Multiset ℤ)
      else 0).map Handle.descriptor = connected net := by
    rw [(tcpConnectCalls_eq net).1, connected]
    cases (tcpConnectHost net).result with
    | error error =>
      rw [if_neg (by rw [descriptor]; omega)]
      rfl
    | ok fd =>
      rw [if_pos (by rw [descriptor]; omega)]
      rfl
  rwa [hleft] at hmap

/-- **A call of `post_json`** has one descriptor at a time, and none when it is over. -/
theorem holds_postJsonCalls (net : ConnectEnv) (sends : List ℤ) (arrived : Option Bytes)
    (host path json : Bytes) :
    Holds 1 0 (onDescriptors (postJsonCalls net sends arrived host path json).2) := by
  suffices h : Within 1 (events (postJsonCalls net sends arrived host path json).2) by
    have hheld : Holds 1 0 (events (postJsonCalls net sends arrived host path json).2) :=
      ⟨balanced_postJsonCalls net sends arrived host path json, h⟩
    exact hheld.map Handle.descriptor
  have htcp := holds_tcpConnectCalls net
  have hclose :
      Within 1 (events ((tcpConnectCalls net).2 ++ [.close (tcpConnectCalls net).1])) := by
    rw [events, List.flatMap_append]
    exact htcp.within.append htcp.leaves (within_release _) htcp.card_le
  unfold postJsonCalls
  by_cases hneg : (tcpConnectCalls net).1 < 0
  · rw [if_pos hneg]
    exact htcp.within
  · rw [if_neg hneg]
    dsimp only
    split <;> exact hclose

/-! ### A probe -/

section Probe

variable {env : ProbeEnv} {endpoint : Endpoint} {request : Bytes}

/-- The phases behind the opening free nothing. -/
theorem keptBehind_ssl : KeptBehind env request fun l l' => l.ssl = true → l'.ssl = true where
  refl _ := id
  trans _ _ _ h h' := h' ∘ h
  assign l l' hassign _ _ _ h := by
    cases hassign with
    | ssl => rfl
    | _ => exact h

/-- **The variable `ssl` at the label `finished`**: it is not null exactly if `SSL_new` has
been called and has returned a connection. -/
theorem ssl_finished : (probeLocals env endpoint request).ssl = true ↔ env.Shakes := by
  rw [probeLocals, probeBody_eq]
  by_cases hshakes : env.Shakes
  · obtain ⟨⟨fd, hfd⟩, hnew⟩ := hshakes
    refine iff_of_true ?_ ⟨⟨fd, hfd⟩, hnew⟩
    have hkept : KeptBehind env request fun l l' => l.ssl = true → l'.ssl = true := keptBehind_ssl
    refine final_bind_of_keeps (P := fun l : Locals => l.ssl = true) ?_ fun _ => ?_
    · rw [final, opening_eq, hfd]
      simp only [hnew, if_true]
      cases env.sslConnect <;> rfl
    · refine Keeps.bind hkept.trans
        (Keeps.bind hkept.trans hkept.checkGroup fun _ => hkept.sendRequest) fun _ => ?_
      refine Keeps.bind hkept.trans (hkept.readReply env.pieces) fun _ => ?_
      refine Keeps.bind hkept.trans hkept.checkReply fun _ => ?_
      exact keeps_modify fun l => hkept.assign l _ .success rfl rfl rfl
  -- without a connection the opening has jumped to the label
  · refine iff_of_false ?_ hshakes
    rw [final_bind, opening_eq]
    rcases htcp : env.tcpConnect with error | fd
    · exact Bool.false_ne_true
    rcases hnew : env.sslNew with _ | _
    · exact Bool.false_ne_true
    · exact absurd ⟨⟨fd, htcp⟩, hnew⟩ hshakes

end Probe

/-- **A probe holds a descriptor and a connection at most, and nothing when it is over.** -/
theorem ProbeCall.holds_handles (c : ProbeCall) (number : ℕ) : Holds 2 0 (c.handles number) := by
  have htcp := (holds_connected c.net).mono one_le_two
  have hssl : (finished c.meets c.options c.endpoint c.sequence c.record).ssl = true ↔
      c.meets.Shakes := ssl_finished
  have hposted : Holds 2 0 (match c.result.posted with
      | none => []
      | some v => onDescriptors (postJsonCalls c.dashboard c.sends c.arrived
        c.options.dashboardHost (lit "/api/measurements/client") v.json).2) := by
    cases c.result.posted with
    | none => exact holds_nil
    | some v => exact (holds_postJsonCalls _ _ _ _ _ _).mono one_le_two
  refine Holds.balanced_append ?_ hposted
  have hresult : (tcpConnectHost c.net).result = c.meets.tcpConnect := rfl
  rw [c.closed_result, (tcpConnectCalls_eq c.net).1]
  rw [connected] at htcp
  rw [hresult] at htcp ⊢
  rcases hconnect : c.meets.tcpConnect with error | fd
  -- there is nothing to close, and no connection
  · have hshakes : ¬ c.meets.Shakes := by
      rintro ⟨⟨fd, hfd⟩, -⟩
      cases hconnect.symm.trans hfd
    rw [hconnect] at htcp
    have hneg : descriptor (.error error) < 0 := Int.negSucc_lt_zero 0
    rw [if_neg (mt hssl.mp hshakes), if_pos hneg]
    simp only [List.append_nil]
    exact htcp.balanced_append holds_nil
  have hclose : onDescriptors (if descriptor (.ok fd) < 0 then []
      else [.close (descriptor (.ok fd))]) = [.release (.descriptor fd)] := by
    have hnonneg : ¬ descriptor (.ok fd) < 0 := Int.not_lt.mpr (Int.natCast_nonneg fd)
    rw [if_neg hnonneg]
    rfl
  have hopened :
      Holds 2 (Handle.descriptor fd ::ₘ 0) (onDescriptors (tcpConnectCalls c.net).2) := by
    rwa [hconnect] at htcp
  rw [hclose]
  rcases hnew : c.meets.sslNew with _ | _
  -- the descriptor is closed though there is no connection
  · have hshakes : ¬ c.meets.Shakes := fun h => Bool.false_ne_true (hnew.symm.trans h.2)
    rw [if_neg (mt hssl.mp hshakes), if_neg Bool.false_ne_true]
    simp only [List.append_nil]
    exact hopened.release
  · rw [if_pos (hssl.mpr ⟨⟨fd, hconnect⟩, hnew⟩), if_pos rfl]
    have hboth := hopened.append (holds_acquire (Handle.ssl number)) (by simp)
    rw [Multiset.singleton_add] at hboth
    exact hboth.release.release

/-! ### The contexts -/

/-- A context, if there is one. -/
def optionalContext (context : Option ℕ) : Multiset Handle :=
  context.elim 0 fun context => {.context context}

theorem ContextEnv.holds_handles (env : ContextEnv) :
    Holds 1 (optionalContext env.context) env.handles := by
  unfold ContextEnv.handles ContextEnv.context
  rcases env.new with _ | context
  · exact holds_nil.mono (Nat.zero_le 1)
  have hacquire : Holds 1 (Handle.context context ::ₘ 0) [.acquire (.context context)] :=
    holds_acquire _
  by_cases hall : env.configured.all id
  · simp only [Option.filter, hall, if_true]
    exact hacquire
  · simp only [Option.filter, hall]
    exact hacquire.release

theorem card_optionalContext_le (context : Option ℕ) : (optionalContext context).card ≤ 1 := by
  cases context <;> simp [optionalContext]

/-- Freeing a context that may not be there. -/
theorem holds_freeContext {n : ℕ} {left : Multiset Handle} {trace : List (Ledger.Event Handle)}
    {context : Option ℕ} (h : Holds n (optionalContext context + left) trace) :
    Holds n left (trace ++ freeContext context) := by
  cases context with
  | none =>
    rw [freeContext, List.append_nil]
    rwa [optionalContext, Option.elim_none, zero_add] at h
  | some context =>
    rw [optionalContext, Option.elim_some, Multiset.singleton_add] at h
    exact h.release

/-- **What is done with the contexts in between**: whatever it is, and whichever of the three
there are, nothing is left behind when they have been freed. -/
theorem holds_between (contexts : Mode → ContextEnv) {n : ℕ} (hn : 1 ≤ n)
    {between : List (Ledger.Event Handle)} (hbetween : Holds n 0 between) :
    Holds (3 + n) 0
      ((contexts .classical).handles ++ (contexts .hybrid).handles ++
        (contexts .hybridP256).handles ++ between ++ freeContext (contexts .classical).context ++
        freeContext (contexts .hybrid).context ++ freeContext (contexts .hybridP256).context) := by
  have hcard := fun m => card_optionalContext_le (contexts m).context
  have hclassical : Holds (3 + n) (optionalContext (contexts .classical).context)
      (contexts .classical).handles := (contexts .classical).holds_handles.mono (by omega)
  have hhybrid := hclassical.append (contexts .hybrid).holds_handles
    (by have := hcard .classical; omega)
  have hall := hhybrid.append (contexts .hybridP256).holds_handles (by
    have := hcard .classical
    have := hcard .hybrid
    rw [Multiset.card_add]
    omega)
  have hused := hall.append_balanced hbetween (by
    have := hcard .classical
    have := hcard .hybrid
    have := hcard .hybridP256
    rw [Multiset.card_add, Multiset.card_add]
    omega)
  -- they are freed in the order in which they were created
  have horder : optionalContext (contexts .hybridP256).context +
      (optionalContext (contexts .hybrid).context + optionalContext (contexts .classical).context) =
      optionalContext (contexts .classical).context +
        (optionalContext (contexts .hybrid).context +
          (optionalContext (contexts .hybridP256).context + 0)) := by
    rw [add_zero, add_comm, add_comm (optionalContext (contexts .hybrid).context), add_assoc]
  rw [horder] at hused
  exact holds_freeContext (holds_freeContext (holds_freeContext hused))

/-! ### The process -/

/-- **Everything the client acquires is released**, on each of its exits and once, and
however many probes it makes, it has five handles at most: the contexts, and the descriptor
and the connection of one probe. -/
theorem client_releases (env : ClientEnv) (arguments : List Bytes) :
    Holds 5 0 (clientMain env arguments).2 ∧
      (∀ handle, (clientMain env arguments).2.count (.acquire handle) =
        (clientMain env arguments).2.count (.release handle)) ∧
      (clientMain env arguments).1 = (main (env.mainEnv arguments) arguments).1 := by
  have hholds : Holds 5 0 (clientMain env arguments).2 := by
    unfold clientMain
    rcases parseOptions env.generatedRunId arguments with _ | options
    · exact holds_nil.mono (Nat.zero_le 5)
    have hpost : ∀ (c : PostCall) (path json : Bytes),
        Holds 2 0 (onDescriptors (c.calls options path json).2) := fun c path json =>
      (holds_postJsonCalls _ _ _ _ _ _).mono one_le_two
    have hprobes : ∀ issued, Holds 2 0 (env.probeHandles options issued) := fun issued =>
      Holds.flatMap fun e _ => ProbeCall.holds_handles _ _
    dsimp only
    split
    · have h := holds_between env.contexts le_rfl (holds_nil.mono (Nat.zero_le 1))
      rw [List.append_nil] at h
      exact h.mono (by decide)
    split
    · exact holds_between env.contexts one_le_two (hpost _ _ _)
    · have h := holds_between env.contexts one_le_two
        (((hpost env.run (lit "/api/runs") (options.runJson env.version)).balanced_append
          (hprobes (benchmark env.probeEnvs options).issued)).balanced_append
            (hpost env.complete options.completePath (lit "\x7b\x7d")))
      simp only [List.append_assoc] at h ⊢
      exact h
  exact ⟨hholds, Balanced.count_eq hholds.leaves, clientMain_fst env arguments⟩

end HybridTls

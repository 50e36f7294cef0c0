import HybridTls.Tls.Handles
import HybridTls.Tls.ServerBody

/-!
# The server's loop

`main` of the TLS server: a context, a listener, and a loop that accepts connections and
handles them one after the other, until it is told to stop or `accept` fails.

The loop is a machine whose inputs are the turns of the loop, and what a run of it does can
be written down (`HybridTls.runFrom_acceptor`): it handles the connections that are accepted
in front of the first turn that ends it, and a turn that is only interrupted leaves no trace.
Whatever the peers do, a connection leaves nothing behind
(`HybridTls.Incoming.holds_handles`). So the server has no more than four handles after any
number of connections, and none when it has exited (`HybridTls.server_releases`).
-/

namespace HybridTls

open Ledger Transition

/-! ### The code -/

/-- **What `create_listener` meets**: what `socket` returns, and whether `bind` and `listen`
succeed. -/
structure ListenerEnv where
  socket : ℤ
  bound : Bool
  listens : Bool

/-- `create_listener`: what it returns. -/
def ListenerEnv.listener (env : ListenerEnv) : ℤ :=
  if env.socket < 0 then -1 else if !env.bound || !env.listens then -1 else env.socket

/-- `create_listener`: a descriptor that cannot be listened to is closed. -/
def ListenerEnv.handles (env : ListenerEnv) : List (Ledger.Event Handle) :=
  if env.socket < 0 then []
  else if !env.bound || !env.listens then
    [.acquire (.descriptor env.socket), .release (.descriptor env.socket)]
  else [.acquire (.descriptor env.socket)]

/-- **A connection that is accepted**: its descriptor, the connection that `SSL_new`
returns if it returns one, and what `handle_connection` and its post meet. -/
structure Incoming where
  clientFd : ℕ
  ssl : ℕ
  env : ServerEnv
  post : PostCall

/-- What `handle_connection` does behind its last `close`. -/
def Incoming.postHandles (c : Incoming) (options : ServerOptions) : List (Ledger.Event Handle) :=
  match handleConnection c.env with
  | none => []
  | some s =>
    if s.recordSample then
      onDescriptors (postJsonCalls c.post.net c.post.sends c.post.arrived options.dashboardHost
        (lit "/api/measurements/server") (s.postBody options)).2
    else []

/-- `accept` and `handle_connection`, which has four exits. -/
def Incoming.handles (c : Incoming) (options : ServerOptions) : List (Ledger.Event Handle) :=
  .acquire (.descriptor c.clientFd) ::
    if !c.env.sslNew then [.release (.descriptor c.clientFd)]
    else
      .acquire (.ssl c.ssl) ::
        if !c.env.sslAccept then [.release (.ssl c.ssl), .release (.descriptor c.clientFd)]
        else match c.env.request with
          | none => [.release (.ssl c.ssl), .release (.descriptor c.clientFd)]
          | some _ =>
            [.release (.ssl c.ssl), .release (.descriptor c.clientFd)] ++ c.postHandles options

/-- **How a turn of the loop goes.** -/
inductive AcceptTurn where
  /-- `keep_running` is found to be 0. -/
  | stopped
  /-- `accept` fails with `EINTR`. -/
  | interrupted
  /-- `accept` fails with another error. -/
  | failed
  | accepted (c : Incoming)

/-- The loop: whether it goes on, the connections that have been handled, and what has been
acquired and released for them. -/
structure Listening where
  running : Bool
  handled : List Incoming
  trace : List (Ledger.Event Handle)

/-- **The loop of `main`.** -/
def acceptor (options : ServerOptions) : Machine Listening AcceptTurn where
  init := ⟨true, [], []⟩
  step l turn :=
    if !l.running then l
    else match turn with
      | .stopped => { l with running := false }
      | .interrupted => l
      | .failed => { l with running := false }
      | .accepted c =>
        { l with handled := l.handled ++ [c], trace := l.trace ++ c.handles options }

/-- **What the process meets** in front of the loop. -/
structure ServerMainEnv where
  context : ContextEnv
  listener : ListenerEnv

/-- A run of the server: its exit code if it has exited, the connections it has handled, and
what it has acquired and released. -/
structure ServerRun where
  code : Option ℤ
  handled : List Incoming
  trace : List (Ledger.Event Handle)

/-- `main`, as far as the turns of its loop go. -/
def serverMain (env : ServerMainEnv) (arguments : List Bytes) (turns : List AcceptTurn) :
    ServerRun :=
  match parseServerOptions arguments with
  | none => ⟨some 2, [], []⟩ -- the usage
  | some options =>
    match env.context.context with
    | none => ⟨some 1, [], env.context.handles⟩
    | some context =>
      let listener := env.listener.listener
      let opened := env.context.handles ++ env.listener.handles
      if listener < 0 then ⟨some 1, [], opened ++ freeContext (some context)⟩
      else
        let l := (acceptor options).run turns
        if l.running then ⟨none, l.handled, opened ++ l.trace⟩
        else ⟨some 0, l.handled,
          opened ++ l.trace ++ [.release (.descriptor listener)] ++ freeContext (some context)⟩

/-! ### A connection -/

/-- **A connection holds a descriptor and a TLS connection at most, and nothing when it has
been handled**, whichever of the exits is taken. -/
theorem Incoming.holds_handles (c : Incoming) (options : ServerOptions) :
    Holds 2 0 (c.handles options) := by
  have hfd : Holds 2 (Handle.descriptor c.clientFd ::ₘ 0) [.acquire (.descriptor c.clientFd)] :=
    (holds_acquire _).mono one_le_two
  have hssl := hfd.append (holds_acquire (Handle.ssl c.ssl)) (by simp)
  rw [Multiset.singleton_add] at hssl
  have hpost : Holds 2 0 (c.postHandles options) := by
    unfold Incoming.postHandles
    rcases handleConnection c.env with _ | s
    · exact holds_nil.mono (Nat.zero_le 2)
    dsimp only
    split
    · exact (holds_postJsonCalls _ _ _ _ _ _).mono one_le_two
    · exact holds_nil.mono (Nat.zero_le 2)
  unfold Incoming.handles
  rcases c.env.sslNew with _ | _
  · exact hfd.release
  rcases c.env.sslAccept with _ | _
  · exact hssl.release.release
  rcases c.env.request with _ | request
  · exact hssl.release.release
  · exact hssl.release.release.balanced_append hpost

/-! ### The loop -/

/-- The turn is not the last one. -/
def AcceptTurn.continues : AcceptTurn → Bool
  | .stopped | .failed => false
  | .interrupted | .accepted _ => true

/-- The connection that is accepted, if one is. -/
def AcceptTurn.connection : AcceptTurn → Option Incoming
  | .accepted c => some c
  | _ => none

/-- The connections that are accepted in front of the turn that ends the loop. -/
def acceptedBy (turns : List AcceptTurn) : List Incoming :=
  (turns.takeWhile AcceptTurn.continues).filterMap AcceptTurn.connection

section Loop

variable {options : ServerOptions} {turns : List AcceptTurn}

@[simp] theorem acceptedBy_stopped : acceptedBy (.stopped :: turns) = [] := rfl

@[simp] theorem acceptedBy_failed : acceptedBy (.failed :: turns) = [] := rfl

@[simp] theorem acceptedBy_interrupted :
    acceptedBy (.interrupted :: turns) = acceptedBy turns := rfl

@[simp] theorem acceptedBy_accepted (c : Incoming) :
    acceptedBy (.accepted c :: turns) = c :: acceptedBy turns := rfl

/-- A loop that has ended does nothing any more. -/
theorem runFrom_acceptor_of_ended (l : Listening) (hl : l.running = false) :
    (acceptor options).runFrom l turns = l := by
  induction turns with
  | nil => rfl
  | cons turn turns ih =>
    have hstep : (acceptor options).step l turn = l := by simp [acceptor, hl]
    rw [Machine.runFrom_cons, hstep, ih]

/-- **What the loop does**, by induction on the turns. -/
theorem runFrom_acceptor (l : Listening) (hl : l.running = true) :
    (acceptor options).runFrom l turns =
      { running := turns.all AcceptTurn.continues
        handled := l.handled ++ acceptedBy turns
        trace := l.trace ++ (acceptedBy turns).flatMap (·.handles options) } := by
  induction turns generalizing l with
  | nil => simp [acceptedBy, ← hl]
  | cons turn turns ih =>
    rw [Machine.runFrom_cons]
    cases turn with
    | stopped =>
      rw [runFrom_acceptor_of_ended _ (by simp [acceptor, hl])]
      simp [acceptor, hl, AcceptTurn.continues]
    | failed =>
      rw [runFrom_acceptor_of_ended _ (by simp [acceptor, hl])]
      simp [acceptor, hl, AcceptTurn.continues]
    | interrupted =>
      have hstep : (acceptor options).step l .interrupted = l := by simp [acceptor, hl]
      rw [hstep, ih l hl]
      simp [AcceptTurn.continues]
    | accepted c =>
      have hstep : (acceptor options).step l (.accepted c) =
          { l with handled := l.handled ++ [c], trace := l.trace ++ c.handles options } := by
        simp [acceptor, hl]
      rw [hstep, ih ⟨l.running, l.handled ++ [c], l.trace ++ c.handles options⟩ hl]
      simp [AcceptTurn.continues]

theorem run_acceptor (options : ServerOptions) (turns : List AcceptTurn) :
    (acceptor options).run turns =
      { running := turns.all AcceptTurn.continues
        handled := acceptedBy turns
        trace := (acceptedBy turns).flatMap (·.handles options) } :=
  runFrom_acceptor _ rfl

end Loop

/-! ### The process -/

theorem ListenerEnv.holds_handles (env : ListenerEnv) :
    Holds 1 (if env.listener < 0 then 0 else {.descriptor env.listener}) env.handles := by
  have hopened : Holds 1 (Handle.descriptor env.socket ::ₘ 0)
      [.acquire (.descriptor env.socket)] := holds_acquire _
  unfold ListenerEnv.handles ListenerEnv.listener
  by_cases hsocket : env.socket < 0
  · simp only [if_pos hsocket]
    exact holds_nil.mono (Nat.zero_le 1)
  simp only [if_neg hsocket]
  by_cases hfails : (!env.bound || !env.listens) = true
  · simp only [if_pos hfails]
    exact hopened.release
  · simp only [if_neg hfails, if_neg hsocket]
    exact hopened

/-- **A run of the server in which everything is accounted for.** -/
structure ServerRun.Accounted (run : ServerRun) (env : ServerMainEnv) (turns : List AcceptTurn) :
    Prop where
  /-- While it waits, it has its listener and its context, whatever it has handled. -/
  waiting : run.code = none →
    ∃ context, Holds 4 {.descriptor env.listener.listener, .context context} run.trace
  exited : run.code ≠ none → Holds 4 0 run.trace
  /-- It has handled what has been accepted in front of the turn that ends the loop, or it
  has not got there. -/
  handled : run.handled =
    if run.code = none ∨ run.code = some 0 then acceptedBy turns else []
  ended : run.code = none → ∀ turn ∈ turns, turn.continues

/-- **Everything the server acquires is released**, and it never has more than four handles,
however many connections it accepts and whatever they do. -/
theorem server_releases (env : ServerMainEnv) (arguments : List Bytes)
    (turns : List AcceptTurn) : (serverMain env arguments turns).Accounted env turns := by
  have hcontext := env.context.holds_handles
  unfold serverMain
  rcases parseServerOptions arguments with _ | options
  · exact ⟨nofun, fun _ => holds_nil.mono (Nat.zero_le 4), rfl, nofun⟩
  dsimp only
  rcases hnew : env.context.context with _ | context
  · rw [hnew] at hcontext
    exact ⟨nofun, fun _ => hcontext.mono (by decide), rfl, nofun⟩
  rw [hnew] at hcontext
  have hopened := (hcontext.mono (show 1 ≤ 4 by decide)).append env.listener.holds_handles
    (by have := card_optionalContext_le (some context); omega)
  dsimp only
  by_cases hlistener : env.listener.listener < 0
  · rw [if_pos hlistener] at hopened ⊢
    rw [add_comm] at hopened
    exact ⟨nofun, fun _ => holds_freeContext hopened, rfl, nofun⟩
  rw [if_neg hlistener, Multiset.singleton_add] at hopened
  rw [if_neg hlistener, run_acceptor]
  have hloop := hopened.append_balanced
    (Holds.flatMap fun c (_ : c ∈ acceptedBy turns) => c.holds_handles options) (by
      have := card_optionalContext_le (some context)
      rw [Multiset.card_cons]
      omega)
  dsimp only
  by_cases hrunning : turns.all AcceptTurn.continues = true
  · rw [if_pos hrunning]
    exact ⟨fun _ => ⟨context, hloop⟩, fun h => absurd rfl h, rfl,
      fun _ => List.all_eq_true.mp hrunning⟩
  · rw [if_neg hrunning]
    refine ⟨nofun, fun _ => ?_, rfl, nofun⟩
    have hclosed := hloop.release
    rw [← add_zero (optionalContext (some context))] at hclosed
    exact holds_freeContext hclosed

end HybridTls

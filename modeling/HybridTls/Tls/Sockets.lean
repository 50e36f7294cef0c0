import HybridTls.Lib.Ledger
import HybridTls.Tls.ClientBody
import HybridTls.Tls.Connect
import HybridTls.Tls.Opening
import HybridTls.Tls.Post

/-!
# The descriptors

`tcp_connect_host`, `post_json` and `probe` with the calls of `socket`, `connect` and
`close` that they make, one after the other. A descriptor is an `int` here, and `-1` says
that there is none.

A connection is that of the first address that answers, and no later one is tried
(`HybridTls.connectsFirst_connectCalls`); what the calls leave behind is the descriptor
that is returned. The two callers close it on each of their paths, so that each of them,
and so any number of probes, leaves nothing behind (`HybridTls.balanced_postJsonCalls`,
`HybridTls.ProbeCall.balanced_calls`).
-/

namespace HybridTls

open Ledger

/-! ### The calls -/

/-- **A call that has to do with descriptors**, and what it has returned. -/
inductive SocketCall where
  | socket (address : Address) (result : ℤ)
  | connect (socketFd : ℤ) (result : Bool)
  | close (socketFd : ℤ)
  deriving DecidableEq

/-- What a call does to the descriptors that are open. A descriptor that is closed must be
one of them, whatever it is. -/
def SocketCall.events : SocketCall → List (Ledger.Event ℤ)
  | .socket _ result => if 0 ≤ result then [.acquire result] else []
  | .connect _ _ => []
  | .close socketFd => [.release socketFd]

/-- What calls do to them. -/
def events (calls : List SocketCall) : List (Ledger.Event ℤ) := calls.flatMap SocketCall.events

/-- The addresses that have been tried. -/
def tried (calls : List SocketCall) : List Address :=
  calls.filterMap fun
    | .socket address _ => some address
    | _ => none

/-- The descriptors that have been closed. -/
def closes (calls : List SocketCall) : List ℤ :=
  calls.filterMap fun
    | .close socketFd => some socketFd
    | _ => none

/-! ### The code -/

/-- What `socket` returns. -/
def Address.returned (a : Address) : ℤ :=
  match a.socket with
  | none => -1
  | some fd => fd

/-- The loop of `tcp_connect_host`, with the variable `socket_fd`. -/
def connectCalls (socketFd : ℤ) : List Address → ℤ × List SocketCall
  | [] => (socketFd, [])
  | current :: rest =>
    let opened := current.returned
    if opened < 0 then
      let run := connectCalls opened rest
      (run.1, .socket current opened :: run.2)
    else if current.connects then (opened, [.socket current opened, .connect opened true])
    else
      let run := connectCalls (-1) rest
      (run.1, .socket current opened :: .connect opened false :: .close opened :: run.2)

/-- `tcp_connect_host`: what it returns, and its calls. -/
def tcpConnectCalls (net : ConnectEnv) : ℤ × List SocketCall :=
  match net.addresses with
  | .error _ => (-1, [])
  | .ok results => connectCalls (-1) results

/-- `post_json`: what it returns, and its calls. -/
def postJsonCalls (net : ConnectEnv) (sends : List ℤ) (arrived : Option Bytes)
    (host path json : Bytes) : ℤ × List SocketCall :=
  let connection := tcpConnectCalls net
  if connection.1 < 0 then (-1, connection.2)
  else
    let w := writeRequest host path json sends
    if !w.ok then (-1, connection.2 ++ [.close connection.1])
    else (readVerdict arrived, connection.2 ++ [.close connection.1])

/-- **A call of `probe`**: its arguments, and what it and `post_json` meet. -/
structure ProbeCall where
  net : ConnectEnv
  env : ProbeEnv
  dashboard : ConnectEnv
  sends : List ℤ
  arrived : Option Bytes
  options : ClientOptions
  endpoint : Endpoint
  sequence : ℕ
  record : Bool

/-- The probe, the connection being what `tcp_connect_host` returns. -/
def ProbeCall.result (c : ProbeCall) : ProbeResult :=
  probe { c.env with tcpConnect := (tcpConnectHost c.net).result } c.options c.endpoint c.sequence
    c.record

/-- Its calls: those of `tcp_connect_host`, `close` behind the label if there is a
descriptor, and those of `record_client` if it is called. `SSL_free` closes nothing, the
descriptor having been set with `SSL_set_fd`. -/
def ProbeCall.calls (c : ProbeCall) : List SocketCall :=
  (tcpConnectCalls c.net).2 ++ c.result.closed.map (fun fd => .close fd) ++
    match c.result.posted with
    | none => []
    | some v =>
      (postJsonCalls c.dashboard c.sends c.arrived c.options.dashboardHost
        (lit "/api/measurements/client") v.json).2

/-! ### Connecting -/

/-- **What the loop does**: it returns the descriptor of the first address that answers, and
-1 exactly if there is none; it tries the addresses up to this one; and it leaves the
descriptor behind that it returns, and nothing else. -/
structure ConnectsFirst (results : List Address) (run : ℤ × List SocketCall) : Prop where
  result : run.1 = ((results.find? (·.answers)).map (·.returned)).getD (-1)
  failed : run.1 = -1 ↔ ∀ a ∈ results, ¬ a.answers
  tried : tried run.2 =
    results.takeWhile (fun a => !a.answers) ++ (results.find? (·.answers)).toList
  leaves : Leaves (if 0 ≤ run.1 then {run.1} else 0) (events run.2)

/-- **A turn of the loop**, by what the address does. -/
theorem connectCalls_cons (socketFd : ℤ) (current : Address) (rest : List Address) :
    connectCalls socketFd (current :: rest) =
      let run := connectCalls (-1) rest
      match current.socket with
      | none => (run.1, [.socket current (-1)] ++ run.2)
      | some fd =>
        if current.connects then ((fd : ℤ), [.socket current fd, .connect fd true])
        else (run.1, [.socket current fd, .connect fd false, .close fd] ++ run.2) := by
  rw [connectCalls, Address.returned]
  rcases current.socket with _ | fd
  · rfl
  · have hnonneg : ¬ (fd : ℤ) < 0 := by omega
    simp only [if_neg hnonneg]
    rfl

section Connect

variable {results : List Address} {current : Address} {run : ℤ × List SocketCall}

/-- In front of an address that answers, others have been tried. -/
theorem ConnectsFirst.cons_of_not_answers (hrun : ConnectsFirst results run)
    (hcurrent : current.answers = false) (calls : List SocketCall)
    (htried : HybridTls.tried calls = [current]) (hcalls : Balanced (events calls)) :
    ConnectsFirst (current :: results) (run.1, calls ++ run.2) := by
  refine ⟨?_, ?_, ?_, ?_⟩
  · rw [hrun.result, List.find?_cons_of_neg (by simp [hcurrent])]
  · rw [hrun.failed, List.forall_mem_cons]
    simp [hcurrent]
  · rw [HybridTls.tried, List.filterMap_append]
    show HybridTls.tried calls ++ HybridTls.tried run.2 = _
    rw [htried, hrun.tried, List.takeWhile_cons_of_pos (by simp [hcurrent]),
      List.find?_cons_of_neg (by simp [hcurrent])]
    rfl
  · rw [events, List.flatMap_append]
    exact hcalls.append_leaves hrun.leaves

/-- An address that answers ends the loop. -/
theorem connectsFirst_of_answers {fd : ℕ} (hsocket : current.socket = some fd)
    (hconnects : current.connects = true) :
    ConnectsFirst (current :: results)
      ((fd : ℤ), [.socket current fd, .connect fd true]) := by
  have hanswers : current.answers = true := by simp [Address.answers, hsocket, hconnects]
  have hreturned : current.returned = fd := by rw [Address.returned, hsocket]
  refine ⟨?_, ?_, ?_, ?_⟩
  · rw [List.find?_cons_of_pos hanswers]
    exact hreturned.symm
  · refine iff_of_false (by omega) fun hall => ?_
    exact hall current List.mem_cons_self hanswers
  · rw [List.takeWhile_cons_of_neg (by simp [hanswers]), List.find?_cons_of_pos hanswers]
    rfl
  · rw [if_pos (Int.natCast_nonneg fd)]
    simp only [events, List.flatMap_cons, SocketCall.events, if_pos (Int.natCast_nonneg fd)]
    exact leaves_acquire _

/-- **The loop**, by induction on the addresses. -/
theorem connectsFirst_connectCalls (results : List Address) :
    ConnectsFirst results (connectCalls (-1) results) := by
  induction results with
  | nil => exact ⟨rfl, by simp [connectCalls], rfl, balanced_nil⟩
  | cons current rest ih =>
    rw [connectCalls_cons]
    rcases hsocket : current.socket with _ | fd
    · have hanswers : current.answers = false := by simp [Address.answers, hsocket]
      exact ih.cons_of_not_answers hanswers [.socket current (-1)] rfl balanced_nil
    rcases hconnects : current.connects with _ | _
    · have hanswers : current.answers = false := by simp [Address.answers, hconnects]
      refine ih.cons_of_not_answers hanswers
        [.socket current fd, .connect fd false, .close fd] rfl ?_
      simp only [events, List.flatMap_cons, SocketCall.events, if_pos (Int.natCast_nonneg fd)]
      exact (leaves_acquire (fd : ℤ)).release
    · exact connectsFirst_of_answers hsocket hconnects

/-- **The loop that knows no descriptor but those of the addresses** does the same, and
closes the same. -/
theorem connectCalls_eq (results : List Address) :
    (connectCalls (-1) results).1 = ((connectLoop results).1.map (↑·)).getD (-1) ∧
      closes (connectCalls (-1) results).2 = (connectLoop results).2.map (↑·) := by
  induction results with
  | nil => exact ⟨rfl, rfl⟩
  | cons current rest ih =>
    obtain ⟨hfound, hclosed⟩ := ih
    rw [connectCalls_cons, connectLoop]
    rcases current.socket with _ | fd
    · exact ⟨hfound, hclosed⟩
    rcases current.connects with _ | _
    · refine ⟨hfound, ?_⟩
      show (fd : ℤ) :: closes (connectCalls (-1) rest).2 = _
      rw [hclosed]
      rfl
    · exact ⟨rfl, rfl⟩

/-- A descriptor, or the `-1` that comes with the text of an error. -/
def descriptor (result : Except Bytes ℕ) : ℤ :=
  match result with
  | .ok fd => fd
  | .error _ => -1

/-- `tcp_connect_host` returns what the function on results returns. -/
theorem tcpConnectCalls_eq (net : ConnectEnv) :
    (tcpConnectCalls net).1 = descriptor (tcpConnectHost net).result ∧
      closes (tcpConnectCalls net).2 = (tcpConnectHost net).closed.map (↑·) := by
  unfold tcpConnectCalls tcpConnectHost
  cases net.addresses with
  | error status => exact ⟨rfl, rfl⟩
  | ok results =>
    obtain ⟨hfound, hclosed⟩ := connectCalls_eq results
    dsimp only
    generalize connectLoop results = loop at hfound hclosed ⊢
    rcases loop with ⟨found, closed⟩
    cases found with
    | none => exact ⟨hfound, hclosed⟩
    | some fd => exact ⟨hfound, hclosed⟩

/-- **What `tcp_connect_host` leaves behind** is the descriptor that it returns. -/
theorem leaves_tcpConnectCalls (net : ConnectEnv) :
    Leaves (if 0 ≤ (tcpConnectCalls net).1 then {(tcpConnectCalls net).1} else 0)
      (events (tcpConnectCalls net).2) := by
  unfold tcpConnectCalls
  cases net.addresses with
  | error status => exact balanced_nil
  | ok results => exact (connectsFirst_connectCalls results).leaves

end Connect

/-! ### The callers -/

/-- A caller that closes the descriptor that it has been given, if it is one. -/
theorem balanced_closing (net : ConnectEnv) {calls : List SocketCall}
    (hcalls : calls = if (tcpConnectCalls net).1 < 0 then []
      else [.close (tcpConnectCalls net).1]) :
    Balanced (events ((tcpConnectCalls net).2 ++ calls)) := by
  have hleaves := leaves_tcpConnectCalls net
  rw [events, List.flatMap_append, hcalls]
  by_cases hneg : (tcpConnectCalls net).1 < 0
  · rw [if_neg (by omega)] at hleaves
    rw [if_pos hneg]
    exact Balanced.append hleaves balanced_nil
  · rw [if_pos (by omega)] at hleaves
    rw [if_neg hneg]
    exact hleaves.release

/-- **Each path of `post_json` closes what it has opened.** -/
theorem balanced_postJsonCalls (net : ConnectEnv) (sends : List ℤ) (arrived : Option Bytes)
    (host path json : Bytes) :
    Balanced (events (postJsonCalls net sends arrived host path json).2) := by
  unfold postJsonCalls
  by_cases hneg : (tcpConnectCalls net).1 < 0
  · have hbalanced := @balanced_closing net [] (if_pos hneg).symm
    rw [List.append_nil] at hbalanced
    rwa [if_pos hneg]
  · have hbalanced := balanced_closing net (if_neg hneg).symm
    rw [if_neg hneg]
    dsimp only
    split <;> exact hbalanced

/-- `post_json`, given the result of `tcp_connect_host`, returns the same. -/
theorem postJsonCalls_fst (net : ConnectEnv) (sends : List ℤ) (arrived : Option Bytes)
    (host path json : Bytes) :
    (postJsonCalls net sends arrived host path json).1 =
      (postJson ⟨(tcpConnectHost net).result, sends, arrived⟩ host path json).code := by
  obtain ⟨hdescriptor, -⟩ := tcpConnectCalls_eq net
  unfold postJsonCalls postJson
  cases hresult : (tcpConnectHost net).result with
  | error error =>
    have hneg : (tcpConnectCalls net).1 < 0 := by
      rw [hdescriptor, hresult]
      exact Int.negSucc_lt_zero 0
    rw [if_pos hneg]
  | ok fd =>
    have hneg : ¬ (tcpConnectCalls net).1 < 0 := by
      rw [hdescriptor, hresult, descriptor]
      omega
    rw [if_neg hneg]
    dsimp only
    split <;> rfl

/-- The descriptor that `probe` closes behind its label. -/
theorem ProbeCall.closed_result (c : ProbeCall) :
    c.result.closed.map (fun fd : ℕ => SocketCall.close fd) =
      if (tcpConnectCalls c.net).1 < 0 then [] else [.close (tcpConnectCalls c.net).1] := by
  have hopened : c.result.closed = (tcpConnectHost c.net).result.toOption.toList :=
    congrArg Option.toList (@opened_probeLocals
      { c.env with tcpConnect := (tcpConnectHost c.net).result } c.endpoint
      (probeRequest c.options c.endpoint c.sequence c.record)).socketFd
  rw [hopened, (tcpConnectCalls_eq c.net).1]
  cases (tcpConnectHost c.net).result with
  | error error => rfl
  | ok fd => exact (if_neg (by rw [descriptor]; omega)).symm

/-- **Each path of `probe` closes what it has opened.** -/
theorem ProbeCall.balanced_calls (c : ProbeCall) : Balanced (events c.calls) := by
  have hprobe := balanced_closing c.net c.closed_result
  unfold ProbeCall.calls
  cases c.result.posted with
  | none => rwa [List.append_nil]
  | some v =>
    rw [events, List.flatMap_append]
    exact hprobe.append (balanced_postJsonCalls _ _ _ _ _ _)

/-- **Descriptors are accounted for**: none is closed that is not open, none is left open,
and each has been opened as often as it has been closed. -/
structure Accounted (calls : List SocketCall) : Prop where
  balanced : Balanced (events calls)
  once : ∀ fd, (events calls).count (.acquire fd) = (events calls).count (.release fd)

theorem accounted_of_balanced {calls : List SocketCall} (h : Balanced (events calls)) :
    Accounted calls := ⟨h, h.count_eq⟩

/-- **Sockets are accounted for**: by `tcp_connect_host`, which leaves the first that could
be connected, if any, and nothing else; by `post_json` and by `probe`, whatever they meet;
and so by any number of probes. -/
theorem sockets_accounted :
    (∀ results : List Address, ConnectsFirst results (connectCalls (-1) results)) ∧
    (∀ (net : ConnectEnv) (sends : List ℤ) (arrived : Option Bytes) (host path json : Bytes),
      Accounted (postJsonCalls net sends arrived host path json).2) ∧
    ∀ probes : List ProbeCall, Accounted (probes.flatMap ProbeCall.calls) := by
  refine ⟨connectsFirst_connectCalls, fun net sends arrived host path json =>
    accounted_of_balanced (balanced_postJsonCalls net sends arrived host path json),
    fun probes => accounted_of_balanced ?_⟩
  rw [events, List.flatMap_assoc]
  exact balanced_flatMap fun c _ => c.balanced_calls

end HybridTls

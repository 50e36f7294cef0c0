import HybridTls.Tls.Probe

/-!
# The opening of a probe

The first three phases of a probe – connect, create the TLS connection, shake hands – have
no loop, and so it can be written down what they end in (`HybridTls.opening_eq`). What
they assign is kept by the phases behind them, whatever these do, so that at the label
`finished` it is known which descriptor the probe has, and when it had it: from whether
the connection was made, and whether the handshake was tried
(`HybridTls.opened_probeLocals`).
-/

namespace HybridTls

open Raising

/-- Connect, create the TLS connection, and shake hands. -/
def opening (env : ProbeEnv) : ProbeM Unit := do
  connectTcp env
  createTls env
  handshake env

/-- Check the group and send the request. -/
def asking (env : ProbeEnv) (endpoint : Endpoint) (request : Bytes) : ProbeM Unit := do
  checkGroup env endpoint
  sendRequest env request

/-- Read the reply and check it. -/
def answering (env : ProbeEnv) : ProbeM Unit := do
  readReply env env.pieces
  checkReply
  modify fun l => { l with success := true }

/-- The identifier of the sample, as it is in its buffer. -/
def probeSampleId (options : ClientOptions) (endpoint : Endpoint) (sequence : ℕ) : Bytes :=
  snprintf 180 (sampleIdText options.runId endpoint.mode sequence)

/-- The request of a probe, as it is in its buffer. -/
def probeRequest (options : ClientOptions) (endpoint : Endpoint) (sequence : ℕ)
    (record : Bool) : Bytes :=
  snprintf 640
    (requestText (probeSampleId options endpoint sequence) options.runId endpoint.host record)

/-- The local variables of `probe` at its label `finished`. -/
def finished (env : ProbeEnv) (options : ClientOptions) (endpoint : Endpoint) (sequence : ℕ)
    (record : Bool) : Locals :=
  probeLocals env endpoint (probeRequest options endpoint sequence record)

/-- What `probe` does behind that label. -/
theorem probe_eq (env : ProbeEnv) (options : ClientOptions) (endpoint : Endpoint) (sequence : ℕ)
    (record : Bool) :
    probe env options endpoint sequence record =
      let l := finished env options endpoint sequence record
      { code := if l.success then 0 else -1
        request := l.request
        posted :=
          if record then
            some (l.values env options endpoint (probeSampleId options endpoint sequence))
          else none
        closed := l.socketFd.toList
        readings := l.readings + 1 } := rfl

/-- **The handshake is tried**: there is a connection, and `SSL_new` has returned one too. -/
def ProbeEnv.Shakes (env : ProbeEnv) : Prop :=
  (∃ fd, env.tcpConnect = .ok fd) ∧ env.sslNew = true

/-- **What is known of a probe that is finished**: the descriptor is the one that
`tcp_connect_host` returned, and the time of the handshake is that of the start if it was
not tried. -/
structure Locals.Opened (env : ProbeEnv) (l : Locals) : Prop where
  socketFd : l.socketFd = env.tcpConnect.toOption
  connected : l.connected = env.clock 1
  shaken : env.Shakes → l.handshakeDone = env.clock 2
  unshaken : ¬ env.Shakes → l.handshakeDone = env.clock 0

section Opening

variable {env : ProbeEnv} {endpoint : Endpoint} {request : Bytes}

/-- The phases, in three groups. -/
theorem probeBody_eq (env : ProbeEnv) (endpoint : Endpoint) (request : Bytes) :
    probeBody env endpoint request =
      opening env >>= fun _ => asking env endpoint request >>= fun _ => answering env := by
  simp only [probeBody, opening, asking, answering, bind_assoc]

/-- **What the opening does**, from the first statement on. -/
theorem opening_eq (env : ProbeEnv) :
    opening env (.initial env) =
      match env.tcpConnect with
      | .error error => .error ()
        { Locals.initial env with
          connectionError := snprintf 512 error
          connected := env.clock 1
          readings := 2 }
      | .ok fd =>
        if env.sslNew then
          match env.sslConnect with
          | .error queued => .error ()
            { Locals.initial env with
              socketFd := some fd
              ssl := true
              connectionError := snprintf 512 (lastTlsError queued)
              connected := env.clock 1
              handshakeDone := env.clock 2
              readings := 3 }
          | .ok _ => .ok ()
            { Locals.initial env with
              socketFd := some fd
              ssl := true
              connected := env.clock 1
              handshakeDone := env.clock 2
              readings := 3 }
        else .error ()
          { Locals.initial env with
            socketFd := some fd
            connectionError := snprintf 512 (lit "SSL_new failed")
            connected := env.clock 1
            readings := 2 } := by
  simp only [opening, connectTcp, createTls, handshake]
  rcases env.tcpConnect with error | fd
  · rfl
  rcases env.sslNew with _ | _
  · rfl
  rcases env.sslConnect with queued | u
  · rfl
  · rfl

/-- **What is known when it is over**, whether it has gone through or not. -/
theorem opened_opening (env : ProbeEnv) : (final (opening env) (.initial env)).Opened env := by
  have hnot : ∀ error, env.tcpConnect = .error error → ¬ env.Shakes := by
    rintro error herror ⟨⟨fd, hfd⟩, -⟩
    cases herror.symm.trans hfd
  rw [final, opening_eq]
  rcases htcp : env.tcpConnect with error | fd
  · exact ⟨by rw [htcp]; rfl, rfl, fun h => absurd h (hnot error htcp), fun _ => rfl⟩
  rcases hssl : env.sslNew with _ | _
  · have hshakes : ¬ env.Shakes := fun h => Bool.false_ne_true (hssl.symm.trans h.2)
    exact ⟨by rw [htcp]; rfl, rfl, fun h => absurd h hshakes, fun _ => rfl⟩
  · have hshakes : env.Shakes := ⟨⟨fd, htcp⟩, hssl⟩
    rcases env.sslConnect with queued | u
    · exact ⟨by rw [htcp]; rfl, rfl, fun _ => rfl, fun h => absurd hshakes h⟩
    · exact ⟨by rw [htcp]; rfl, rfl, fun _ => rfl, fun h => absurd hshakes h⟩

/-- The phases behind the opening keep what it has assigned. -/
theorem keptBehind_opened : KeptBehind env request fun l l' => l.Opened env → l'.Opened env where
  refl _ := id
  trans _ _ _ h h' := h' ∘ h
  assign _ _ _ hsocket hconnected hdone h :=
    ⟨hsocket.trans h.socketFd, hconnected.trans h.connected, fun hs => hdone.trans (h.shaken hs),
      fun hs => hdone.trans (h.unshaken hs)⟩

/-- **What is known at the label `finished`.** -/
theorem opened_probeLocals : (probeLocals env endpoint request).Opened env := by
  have hkept : KeptBehind env request fun l l' => l.Opened env → l'.Opened env :=
    keptBehind_opened
  rw [probeLocals, probeBody_eq]
  refine final_bind_of_keeps (P := Locals.Opened env) (opened_opening env) fun _ => ?_
  refine Keeps.bind hkept.trans
    (Keeps.bind hkept.trans hkept.checkGroup fun _ => hkept.sendRequest) fun _ => ?_
  refine Keeps.bind hkept.trans (hkept.readReply env.pieces) fun _ => ?_
  refine Keeps.bind hkept.trans hkept.checkReply fun _ => ?_
  exact keeps_modify fun l => hkept.assign l _ .success rfl rfl rfl

end Opening

end HybridTls

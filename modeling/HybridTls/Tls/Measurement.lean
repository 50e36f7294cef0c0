import HybridTls.Lib.Triple
import HybridTls.Tls.Connect
import HybridTls.Tls.Probe

/-!
# What a probe measures

The four durations that a probe posts are computed behind the label `finished`, from
variables that have been set by then or still have the values they started with. Which of
them have been set is the stage the probe has reached (`HybridTls.Stage`): a time is then
either the reading of the clock that belongs to it, or the first one
(`HybridTls.Stage.times`). The stage is all that the durations depend on, so that from a
clock that does not go back one sees that they are in order, on every path
(`HybridTls.Locals.consistent`).

What else is known at the label is proved with triples, whose exit is the label: a probe
that jumps there has written an error, and one that falls through has passed all the
checks (`HybridTls.triple_probeBody`).
-/

namespace HybridTls

open Raising

/-! ### Stages -/

/-- What a probe has got to: it has a connection, or an error instead of one; the
handshake is over; the first byte of the reply has been received. -/
inductive Stage where
  | connected
  | handshakeDone
  | firstByte
  deriving DecidableEq, Repr

/-- The variables that times are read into, and how many have been read. -/
structure Times where
  started : UInt64
  connected : UInt64
  handshakeDone : UInt64
  firstByte : UInt64
  readings : ℕ

/-- The times in the local variables. -/
def Locals.times (l : Locals) : Times where
  started := l.started
  connected := l.connected
  handshakeDone := l.handshakeDone
  firstByte := l.firstByte
  readings := l.readings

/-- **The times at a stage.** -/
def Stage.times (env : ProbeEnv) : Stage → Times
  | .connected => ⟨env.clock 0, env.clock 1, env.clock 0, 0, 2⟩
  | .handshakeDone => ⟨env.clock 0, env.clock 1, env.clock 2, 0, 3⟩
  | .firstByte => ⟨env.clock 0, env.clock 1, env.clock 2, env.clock 3, 4⟩

/-- The first piece of the reply is not empty. -/
def ProbeEnv.Answers (env : ProbeEnv) : Prop :=
  ∃ piece pieces, env.pieces = piece :: pieces ∧ piece ≠ []

/-- What holds at the label `finished` of a probe that jumped there. -/
structure Locals.Stopped (env : ProbeEnv) (l : Locals) : Prop where
  success : l.success = false
  connectionError : l.connectionError ≠ []
  stage : ∃ stage : Stage, l.times = stage.times env

/-- What holds there of a probe that went through. -/
structure Locals.Succeeded (env : ProbeEnv) (endpoint : Endpoint) (l : Locals) : Prop where
  success : l.success = true
  stage : l.times = Stage.times env .firstByte
  answers : env.Answers
  groupCopy : sameIgnoringCase l.groupCopy endpoint.group
  response : lit "HTTP/1.1 200 OK" <:+: env.pieces.flatten

/-! ### The phases -/

/-- Before the reply: the probe is at a stage, and nothing has been received. -/
structure Locals.Before (env : ProbeEnv) (stage : Stage) (l : Locals) : Prop where
  success : l.success = false
  response : l.response = []
  stage : l.times = stage.times env

/-- While the reply is read: the group has been checked, and what has been received and
what is still to come are the reply. -/
structure Locals.Reading (env : ProbeEnv) (endpoint : Endpoint) (pieces : List Bytes)
    (l : Locals) : Prop where
  success : l.success = false
  groupCopy : sameIgnoringCase l.groupCopy endpoint.group
  room : l.response.length < 4095
  response : l.response ++ pieces.flatten = env.pieces.flatten
  stage : l.times = Stage.times env .handshakeDone ∧ pieces = env.pieces ∨
    l.times = Stage.times env .firstByte ∧ env.Answers

/-- In a turn of the loop that has received something. -/
structure Locals.Received (env : ProbeEnv) (endpoint : Endpoint) (received : Bytes)
    (l : Locals) : Prop where
  success : l.success = false
  groupCopy : sameIgnoringCase l.groupCopy endpoint.group
  response : l.response = received
  stage : l.times = Stage.times env .firstByte
  answers : env.Answers

/-- When it has been read. -/
structure Locals.HasRead (env : ProbeEnv) (endpoint : Endpoint) (l : Locals) : Prop where
  success : l.success = false
  groupCopy : sameIgnoringCase l.groupCopy endpoint.group
  response : l.response <+: env.pieces.flatten
  stage : l.times = Stage.times env .handshakeDone ∨
    l.times = Stage.times env .firstByte ∧ env.Answers

section Phases

variable {env : ProbeEnv} {endpoint : Endpoint} {request : Bytes} {stage : Stage}

theorem snprintf_ne_nil {error : Bytes} (h : error ≠ []) : snprintf 512 error ≠ [] := by
  cases error with
  | nil => exact absurd rfl h
  | cons b error => simp [snprintf]

/-- An error is written, and the probe is finished. -/
theorem triple_setError_goto {P : Locals → Prop} {Q : Unit → Locals → Prop} {error : Bytes}
    (herror : error ≠ [])
    (hP : ∀ l, P l → l.success = false ∧ ∃ stage : Stage, l.times = stage.times env) :
    Triple P (do setError error; gotoFinished) Q (Locals.Stopped env) := by
  refine Triple.bind (Q := fun _ => Locals.Stopped env) (triple_modify fun l hl => ?_)
    fun _ => triple_throw fun _ hl => hl
  obtain ⟨hsuccess, stage, hstage⟩ := hP l hl
  exact ⟨hsuccess, snprintf_ne_nil herror, stage, hstage⟩

theorem triple_connectTcp (htcp : ∀ error, env.tcpConnect = .error error → error ≠ []) :
    Triple (fun l => l = .initial env) (connectTcp env) (fun _ => Locals.Before env .connected)
      (Locals.Stopped env) := by
  unfold connectTcp
  cases hres : env.tcpConnect with
  | ok fd =>
    refine Triple.bind (Q := fun _ l => l = { Locals.initial env with socketFd := some fd })
      (triple_modify fun l hl => ?_) fun _ => triple_modify fun l hl => ?_
    · rw [hl]
    · subst hl
      exact ⟨rfl, rfl, rfl⟩
  | error error =>
    have herror := snprintf_ne_nil (htcp error hres)
    refine Triple.bind
      (Q := fun _ l => l = { Locals.initial env with connectionError := snprintf 512 error })
      (triple_modify fun l hl => ?_) fun _ => Triple.bind (Q := fun _ => Locals.Stopped env)
      (triple_modify fun l hl => ?_) fun _ => triple_throw fun _ hl => hl
    · rw [hl]
    · subst hl
      exact ⟨rfl, herror, .connected, rfl⟩

theorem triple_createTls : Triple (Locals.Before env .connected) (createTls env)
    (fun _ => Locals.Before env .connected) (Locals.Stopped env) := by
  unfold createTls
  split
  · exact triple_modify fun l hl => ⟨hl.success, hl.response, hl.stage⟩
  · exact triple_setError_goto (by decide) fun l hl => ⟨hl.success, _, hl.stage⟩

theorem lastTlsError_ne_nil {queued : Option Bytes} (h : ∀ error ∈ queued, error ≠ []) :
    lastTlsError queued ≠ [] := by
  cases queued with
  | none => decide
  | some error => exact h error rfl

/-- The reading of the clock behind the handshake. -/
theorem times_stamp_handshakeDone {l : Locals} (h : l.times = Stage.times env .connected) :
    Locals.times { l with handshakeDone := env.clock l.readings, readings := l.readings + 1 } =
      Stage.times env .handshakeDone := by
  simp only [Locals.times, Stage.times, Times.mk.injEq] at h ⊢
  obtain ⟨hstarted, hconnected, -, hfirst, hreadings⟩ := h
  exact ⟨hstarted, hconnected, by rw [hreadings], hfirst, by rw [hreadings]⟩

/-- The reading of the clock behind the first byte. -/
theorem times_stamp_firstByte {l : Locals} (h : l.times = Stage.times env .handshakeDone) :
    Locals.times { l with firstByte := env.clock l.readings, readings := l.readings + 1 } =
      Stage.times env .firstByte := by
  simp only [Locals.times, Stage.times, Times.mk.injEq] at h ⊢
  obtain ⟨hstarted, hconnected, hdone, -, hreadings⟩ := h
  exact ⟨hstarted, hconnected, hdone, by rw [hreadings], by rw [hreadings]⟩

theorem triple_handshake
    (hconnect : ∀ queued, env.sslConnect = .error queued → ∀ error ∈ queued, error ≠ []) :
    Triple (Locals.Before env .connected) (handshake env)
      (fun _ => Locals.Before env .handshakeDone) (Locals.Stopped env) := by
  unfold handshake
  cases hres : env.sslConnect with
  | ok u => exact triple_modify fun l hl =>
      ⟨hl.success, hl.response, times_stamp_handshakeDone (l := l) hl.stage⟩
  | error queued =>
    have herror := snprintf_ne_nil (lastTlsError_ne_nil (hconnect queued hres))
    refine Triple.bind (Q := fun _ l => Locals.Before env .connected l ∧ l.connectionError ≠ [])
      (triple_modify fun l hl => ?_) fun _ => Triple.bind (Q := fun _ => Locals.Stopped env)
      (triple_modify fun l hl => ?_) fun _ => triple_throw fun _ hl => hl
    · exact ⟨⟨hl.success, hl.response, hl.stage⟩, herror⟩
    · exact ⟨hl.1.success, hl.2, .handshakeDone, times_stamp_handshakeDone (l := l) hl.1.stage⟩

theorem triple_checkGroup : Triple (Locals.Before env .handshakeDone) (checkGroup env endpoint)
    (fun _ => Locals.Reading env endpoint env.pieces) (Locals.Stopped env) := by
  refine Triple.bind (Q := fun _ l => Locals.Before env .handshakeDone l ∧
    l.groupCopy = copyGroup env.groupName) (triple_modify fun l hl => ?_) fun _ => ?_
  · exact ⟨⟨hl.success, hl.response, hl.stage⟩, rfl⟩
  · split
    next hsame =>
      refine triple_pure fun l ⟨hl, hgroup⟩ => ?_
      refine ⟨hl.success, by rwa [hgroup], ?_, ?_, Or.inl ⟨hl.stage, rfl⟩⟩
      · rw [hl.response]
        decide
      · rw [hl.response, List.nil_append]
    next =>
      have herror : lit "negotiated " ++ copyGroup env.groupName ++ lit " instead of " ++
          endpoint.group ≠ [] := by
        have hlit : lit "negotiated " ≠ [] := by decide
        simp [hlit]
      exact triple_setError_goto herror fun l hl => ⟨hl.1.success, _, hl.1.stage⟩

theorem triple_sendRequest
    (hwrite : ∀ queued, env.sslWrite = .error queued → ∀ error ∈ queued, error ≠ []) :
    Triple (Locals.Reading env endpoint env.pieces) (sendRequest env request)
      (fun _ => Locals.Reading env endpoint env.pieces) (Locals.Stopped env) := by
  refine Triple.bind (Q := fun _ => Locals.Reading env endpoint env.pieces)
    (triple_modify fun l hl =>
      ⟨hl.success, hl.groupCopy, hl.room, hl.response, hl.stage⟩) fun _ => ?_
  cases hres : env.sslWrite with
  | ok u => exact triple_pure fun l hl => hl
  | error queued =>
    refine triple_setError_goto (lastTlsError_ne_nil (hwrite queued hres)) fun l hl => ?_
    exact ⟨hl.success, hl.stage.elim (fun h => ⟨_, h.1⟩) fun h => ⟨_, h.1⟩⟩

/-- No reading of the clock is zero. -/
theorem firstByte_ne_zero (hclock : ∀ i, 0 < env.clock i) {l : Locals}
    (h : l.times = Stage.times env .firstByte) : l.firstByte ≠ 0 := by
  have hfirst : l.firstByte = env.clock 3 := congrArg Times.firstByte h
  intro hzero
  exact absurd (hclock 3) (by simp [← hfirst, hzero])

/-- A first byte is noted, if none has been: with it the probe is at the last stage. -/
theorem triple_stampFirstByte (hclock : ∀ i, 0 < env.clock i) {piece : Bytes}
    {pieces : List Bytes} {l : Locals} (hl : l.Reading env endpoint (piece :: pieces))
    (hpiece : piece ≠ []) : Triple (fun l' => l' = l) (stampFirstByte env)
      (fun _ => Locals.Received env endpoint l.response) (Locals.Stopped env) := by
  refine triple_get_bind fun l' hl' => ?_
  subst hl'
  split
  next hzero =>
    refine triple_modify fun l hl' => ?_
    subst hl'
    obtain ⟨hstage, hpieces⟩ | ⟨hstage, -⟩ := hl.stage
    · exact ⟨hl.success, hl.groupCopy, rfl, times_stamp_firstByte (l := l) hstage, piece, pieces,
        hpieces.symm, hpiece⟩
    · exact absurd hzero (firstByte_ne_zero hclock hstage)
  next hnonzero =>
    refine triple_pure fun l hl' => ?_
    subst hl'
    obtain ⟨hstage, -⟩ | ⟨hstage, hanswers⟩ := hl.stage
    · exact absurd (congrArg Times.firstByte hstage) hnonzero
    · exact ⟨hl.success, hl.groupCopy, rfl, hstage, hanswers⟩

/-- **One turn of the reading loop**, before which a piece is to come: it ends the loop, or
leaves the rest to the turns to come. -/
theorem triple_receive (hclock : ∀ i, 0 < env.clock i) {piece : Bytes} {pieces : List Bytes}
    {next : ProbeM Unit} {l : Locals} (hl : l.Reading env endpoint (piece :: pieces))
    (hnext : Triple (Locals.Reading env endpoint pieces) next
      (fun _ => Locals.HasRead env endpoint) (Locals.Stopped env)) :
    Triple (fun l' => l' = l)
      (receive env l.response.length (piece.take (4096 - l.response.length - 1)) next)
      (fun _ => Locals.HasRead env endpoint) (Locals.Stopped env) := by
  have hroom := hl.room
  have hreply := hl.response
  rw [List.flatten_cons] at hreply
  unfold receive
  split
  next =>
    refine triple_pure fun l' hl' => ?_
    subst hl'
    refine ⟨hl.success, hl.groupCopy, ?_, hl.stage.imp_left fun h => h.1⟩
    rw [← hreply]
    exact List.prefix_append _ _
  next hne =>
    have hpiece : piece ≠ [] := by
      rintro rfl
      exact hne List.take_nil
    refine (triple_stampFirstByte hclock hl hpiece).bind fun _ => Triple.bind
      (Q := fun _ => Locals.Received env endpoint
        (l.response ++ piece.take (4096 - l.response.length - 1)))
      (triple_modify fun l' hl' => ⟨hl'.success, hl'.groupCopy, by rw [hl'.response], hl'.stage,
        hl'.answers⟩) fun _ => ?_
    split
    next hfull =>
      refine triple_pure fun l' hl' => ⟨hl'.success, hl'.groupCopy, ?_,
        Or.inr ⟨hl'.stage, hl'.answers⟩⟩
      rw [hl'.response, ← hreply]
      exact (List.prefix_append_right_inj _).mpr
        ((List.take_prefix _ _).trans (List.prefix_append _ _))
    next hfree =>
      -- the piece was not cut off
      have hwhole : piece.take (4096 - l.response.length - 1) = piece := by
        rw [List.length_take] at hfree
        exact List.take_of_length_le (by omega)
      rw [hwhole] at hfree ⊢
      refine hnext.mono (fun l' hl' => ⟨hl'.success, hl'.groupCopy, ?_, ?_,
        Or.inr ⟨hl'.stage, hl'.answers⟩⟩) fun _ _ h => h
      · rw [hl'.response, List.length_append]
        omega
      · rw [hl'.response, List.append_assoc, hreply]

/-- The loop, by induction on the pieces still to come. -/
theorem triple_readReply (hclock : ∀ i, 0 < env.clock i) (pieces : List Bytes) :
    Triple (Locals.Reading env endpoint pieces) (readReply env pieces)
      (fun _ => Locals.HasRead env endpoint) (Locals.Stopped env) := by
  induction pieces with
  | nil =>
    refine triple_pure fun l hl => ⟨hl.success, hl.groupCopy, ?_, hl.stage.imp_left fun h => h.1⟩
    rw [← hl.response]
    exact List.prefix_append _ _
  | cons piece pieces ih => exact triple_get_bind fun l hl => triple_receive hclock hl ih

theorem triple_checkReply : Triple (Locals.HasRead env endpoint) checkReply
    (fun _ l => { l with success := true }.Succeeded env endpoint) (Locals.Stopped env) := by
  refine triple_get_bind fun l hl => ?_
  split
  next =>
    refine triple_setError_goto (by decide) fun l' hl' => hl' ▸ ⟨hl.success, ?_⟩
    exact hl.stage.elim (fun h => ⟨_, h⟩) fun h => ⟨_, h.1⟩
  next hok =>
    obtain ⟨hfirst, hfound⟩ := not_or.mp hok
    refine triple_pure fun l' hl' => ?_
    subst hl'
    -- without a first byte, the check fails
    obtain ⟨hstage, hanswers⟩ := hl.stage.resolve_left fun h => hfirst (congrArg Times.firstByte h)
    refine ⟨rfl, hstage, hanswers, hl.groupCopy, ?_⟩
    have hinfix := Search.isSome_strstr_iff.mp (Option.isSome_iff_ne_none.mpr hfound)
    exact hinfix.trans ((List.takeWhile_prefix _).isInfix.trans hl.response.isInfix)

/-- **What is known at the label**: a probe that falls through has passed all the checks,
and one that jumps there has written an error. -/
theorem triple_probeBody (hclock : ∀ i, 0 < env.clock i)
    (htcp : ∀ error, env.tcpConnect = .error error → error ≠ [])
    (hconnect : ∀ queued, env.sslConnect = .error queued → ∀ error ∈ queued, error ≠ [])
    (hwrite : ∀ queued, env.sslWrite = .error queued → ∀ error ∈ queued, error ≠ []) :
    Triple (fun l => l = .initial env) (probeBody env endpoint request)
      (fun _ => Locals.Succeeded env endpoint) (Locals.Stopped env) :=
  (triple_connectTcp htcp).bind fun _ => triple_createTls.bind fun _ =>
    (triple_handshake hconnect).bind fun _ => triple_checkGroup.bind fun _ =>
      (triple_sendRequest hwrite).bind fun _ => (triple_readReply hclock env.pieces).bind fun _ =>
        triple_checkReply.bind fun _ => triple_modify fun _ hl => hl

end Phases

/-! ### The durations -/

/-- **The times are in order**: each was read after those before it, unless it has not been
read. -/
structure Times.InOrder (t : Times) (completed : UInt64) : Prop where
  connected : t.started ≤ t.connected ∧ t.connected ≤ completed
  handshakeDone : t.handshakeDone = t.started ∨
    t.connected ≤ t.handshakeDone ∧ t.handshakeDone ≤ completed
  firstByte : t.firstByte = 0 ∨ t.connected ≤ t.handshakeDone ∧ t.handshakeDone ≤ t.firstByte ∧
    t.firstByte ≤ completed

/-- The times of every stage are in order, if the clock does not go back. -/
theorem Stage.inOrder {env : ProbeEnv} (hclock : ∀ i j, i ≤ j → env.clock i ≤ env.clock j)
    (stage : Stage) : (stage.times env).InOrder (env.clock (stage.times env).readings) := by
  have h₀₁ := hclock 0 1 (by decide)
  cases stage with
  | connected => exact ⟨⟨h₀₁, hclock 1 2 (by decide)⟩, Or.inl rfl, Or.inl rfl⟩
  | handshakeDone =>
    exact ⟨⟨h₀₁, hclock 1 3 (by decide)⟩,
      Or.inr ⟨hclock 1 2 (by decide), hclock 2 3 (by decide)⟩, Or.inl rfl⟩
  | firstByte =>
    have h₁₂ := hclock 1 2 (by decide)
    exact ⟨⟨h₀₁, hclock 1 4 (by decide)⟩, Or.inr ⟨h₁₂, hclock 2 4 (by decide)⟩,
      Or.inr ⟨h₁₂, hclock 2 3 (by decide), hclock 3 4 (by decide)⟩⟩

/-- **The durations that are posted are consistent**: the phases fit into the total, and so
does the time to the first byte, which contains the phases. -/
structure ClientValues.InOrder (v : ClientValues) : Prop where
  total : v.tcpUs.toNat + v.handshakeUs.toNat ≤ v.totalUs.toNat
  ttfb : v.ttfbUs = 0 ∨ v.tcpUs.toNat + v.handshakeUs.toNat ≤ v.ttfbUs.toNat ∧
    v.ttfbUs.toNat ≤ v.totalUs.toNat

section Durations

variable {env : ProbeEnv} {endpoint : Endpoint} {options : ClientOptions} {l : Locals}
  {sampleId : Bytes} {stage : Stage}

/-- The phases end with the handshake, or with the connection if there is none. -/
theorem phases_eq (options : ClientOptions) (endpoint : Endpoint) (sampleId : Bytes)
    (h : l.times.InOrder (env.clock l.readings)) :
    let v := l.values env options endpoint sampleId
    v.tcpUs.toNat + v.handshakeUs.toNat =
      if l.connected ≤ l.handshakeDone then l.handshakeDone.toNat - l.started.toNat
      else l.connected.toNat - l.started.toNat := by
  have hconnected : l.started ≤ l.connected := h.connected.1
  simp only [Locals.values, UInt64.toNat_sub_of_le _ _ hconnected]
  rw [UInt64.le_iff_toNat_le] at hconnected
  split
  next hle =>
    rw [UInt64.toNat_sub_of_le _ _ hle]
    rw [UInt64.le_iff_toNat_le] at hle
    omega
  next => rfl

theorem Times.InOrder.values (h : l.times.InOrder (env.clock l.readings)) :
    (l.values env options endpoint sampleId).InOrder := by
  have hphases := phases_eq options endpoint sampleId h
  obtain ⟨⟨hsc, hce⟩, hhandshake, hfirst⟩ := h
  simp only [Locals.times] at hsc hce hhandshake hfirst
  have htotal : (l.values env options endpoint sampleId).totalUs.toNat =
      (env.clock l.readings).toNat - l.started.toNat :=
    UInt64.toNat_sub_of_le _ _ (UInt64.le_trans hsc hce)
  constructor
  · rw [hphases, htotal]
    rw [UInt64.le_iff_toNat_le] at hce
    split
    next hle =>
      obtain heq | ⟨-, hde⟩ := hhandshake
      · rw [heq]
        omega
      · rw [UInt64.le_iff_toNat_le] at hde
        omega
    next => omega
  · by_cases hzero : l.firstByte = 0
    · exact Or.inl (if_pos hzero)
    obtain ⟨hcd, hdf, hfe⟩ := hfirst.resolve_left hzero
    have httfb : (l.values env options endpoint sampleId).ttfbUs.toNat =
        l.firstByte.toNat - l.started.toNat := by
      simp only [Locals.values, if_neg hzero]
      exact UInt64.toNat_sub_of_le _ _ (UInt64.le_trans hsc (UInt64.le_trans hcd hdf))
    rw [hphases, if_pos hcd, httfb, htotal]
    rw [UInt64.le_iff_toNat_le] at hdf hfe
    exact Or.inr ⟨by omega, by omega⟩

end Durations

/-! ### What is posted -/

/-- **What a success is based on**: a byte was received, and the time to it is posted; the
group is the one expected; and the reply contains the line of a success. -/
structure ClientValues.Earned (v : ClientValues) (env : ProbeEnv) : Prop where
  answers : env.Answers
  ttfb : v.ttfbUs = env.clock 3 - env.clock 0
  group : sameIgnoringCase v.negotiatedGroup v.expectedGroup
  reply : lit "HTTP/1.1 200 OK" <:+: env.pieces.flatten

theorem Locals.Succeeded.earned {env : ProbeEnv} {endpoint : Endpoint} {l : Locals}
    {options : ClientOptions} {sampleId : Bytes} (hpos : ∀ i, 0 < env.clock i)
    (hl : l.Succeeded env endpoint) : (l.values env options endpoint sampleId).Earned env := by
  have hstarted : l.started = env.clock 0 := congrArg Times.started hl.stage
  have hfirst : l.firstByte = env.clock 3 := congrArg Times.firstByte hl.stage
  refine ⟨hl.answers, ?_, hl.groupCopy, hl.response⟩
  rw [← hstarted, ← hfirst]
  exact if_neg (firstByte_ne_zero hpos hl.stage)

/-- **A probe posts a self-consistent measurement**: once if it records, and otherwise not
at all; with durations that fit into each other, with an error exactly if it failed, and
with a success only if there was one. -/
theorem probe_consistent {net : ConnectEnv} {env : ProbeEnv} (options : ClientOptions)
    (endpoint : Endpoint) (sequence : ℕ) (hpos : ∀ i, 0 < env.clock i)
    (hmono : ∀ i j, i ≤ j → env.clock i ≤ env.clock j)
    (hnet : env.tcpConnect = (tcpConnectHost net).result)
    (hconnect : ∀ queued, env.sslConnect = .error queued → ∀ error ∈ queued, error ≠ [])
    (hwrite : ∀ queued, env.sslWrite = .error queued → ∀ error ∈ queued, error ≠ []) :
    (∃ v, (probe env options endpoint sequence true).posted = some v ∧ v.InOrder ∧
      (v.success ↔ v.post.error = none) ∧ (v.success → v.Earned env) ∧
      (¬ v.success → v.error ≠ []) ∧
      ((probe env options endpoint sequence true).code = 0 ↔ v.success)) ∧
    (probe env options endpoint sequence false).posted = none := by
  refine ⟨⟨_, rfl, ?_⟩, rfl⟩
  simp only [probe]
  generalize snprintf 180 (sampleIdText options.runId endpoint.mode sequence) = sampleId
  generalize snprintf 640 (requestText sampleId options.runId endpoint.host true) = request
  have hlocals : (probeLocals env endpoint request).Succeeded env endpoint ∨
      (probeLocals env endpoint request).Stopped env :=
    ((triple_probeBody hpos (fun error herror => error_tcpConnectHost_ne_nil
      (hnet.symm.trans herror)) hconnect hwrite).final rfl).imp_left fun ⟨_, hl⟩ => hl
  generalize probeLocals env endpoint request = l at hlocals
  have herror : (l.values env options endpoint sampleId).success ↔
      (l.values env options endpoint sampleId).post.error = none := by
    simp [ClientValues.post]
  have horder : ∀ stage : Stage, l.times = stage.times env →
      (l.values env options endpoint sampleId).InOrder := fun stage hstage => by
    have hinOrder := stage.inOrder hmono
    rw [← hstage] at hinOrder
    exact hinOrder.values
  obtain hl | hl := hlocals
  · refine ⟨horder _ hl.stage, herror, fun _ => hl.earned hpos, fun hnot => absurd hl.success hnot,
      ?_⟩
    simp [Locals.values, hl.success]
  · obtain ⟨stage, hstage⟩ := hl.stage
    refine ⟨horder stage hstage, herror, fun hsuccess => ?_, fun _ => hl.connectionError, ?_⟩
    · exact absurd (hl.success.symm.trans hsuccess) Bool.false_ne_true
    · simp [Locals.values, hl.success]

/-- The second of two addresses answers, and the probe goes well. -/
def secondAddress : ConnectEnv where
  addresses := .ok [⟨some 3, false⟩, ⟨some 4, true⟩]
  strerror := lit "Connection refused"

/-- The probe over it, with a clock that stops after five readings. -/
def measured : ProbeEnv where
  clock n := (1000 * (min n 4 + 1)).toUInt64
  tcpConnect := (tcpConnectHost secondAddress).result
  sslNew := true
  sslConnect := .ok ()
  groupName := some (lit "x25519mlkem768")
  version := lit "TLSv1.3"
  cipherName := lit "TLS_AES_256_GCM_SHA384"
  sslWrite := .ok ()
  pieces := [lit "HTTP/1.1 20", lit "0 OK\r\n\r\n"]
  numberRead := some 3000
  numberWritten := some 1000

theorem toNat_clock_measured (n : ℕ) : (measured.clock n).toNat = 1000 * (min n 4 + 1) := by
  change 1000 * (min n 4 + 1) % 2 ^ 64 = _
  omega

/-- It does not go back. -/
theorem monotone_clock_measured (i j : ℕ) (hij : i ≤ j) : measured.clock i ≤ measured.clock j := by
  rw [UInt64.le_iff_toNat_le, toNat_clock_measured, toNat_clock_measured]
  omega

/-- Its measurement. -/
theorem probe_consistent_measured : ∃ v,
    (probe measured (.default (lit "run-1")) ((ClientOptions.default (lit "run-1")).endpoint
      .hybrid) 1 true).posted = some v ∧ v.InOrder ∧ v.success ∧ v.Earned measured := by
  have hpos : ∀ i, 0 < measured.clock i := fun i => by
    rw [UInt64.lt_iff_toNat_lt, toNat_clock_measured]
    exact Nat.mul_pos (by decide) (Nat.succ_pos _)
  obtain ⟨⟨v, hv, horder, -, hearned, -, hcode⟩, -⟩ := @probe_consistent secondAddress measured
    (.default (lit "run-1")) ((ClientOptions.default (lit "run-1")).endpoint .hybrid) 1 hpos
    monotone_clock_measured rfl (by rintro _ ⟨⟩) (by rintro _ ⟨⟩)
  have hsuccess : v.success := hcode.mp (by decide +kernel)
  exact ⟨v, hv, horder, hsuccess, hearned hsuccess⟩

end HybridTls

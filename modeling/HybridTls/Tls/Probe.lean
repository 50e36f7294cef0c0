import HybridTls.Lib.Search
import HybridTls.Lib.Session
import HybridTls.Tls.Options
import Mathlib.Logic.Relation

/-!
# One probe

`probe` of the benchmark client: connect, shake hands, check the group, send a
request, read the reply, and report what was measured.

The function is a sequence of phases, any of which may `goto finished`; here the
phases run in a state with exceptions, the state being the local variables
(`HybridTls.Locals`) and the exception the jump. What the network, the TLS
library and the clock do is the environment of a probe (`HybridTls.ProbeEnv`):
nothing is assumed of it.

Every phase is a sequence of assignments, of which there are ten kinds
(`HybridTls.Assigns`), so what each kind of assignment keeps holds at the label
`finished`, whichever way the probe got there (`HybridTls.probeLocals_induction`).
Two such invariants are `HybridTls.Locals.Timed` – the times that were read are
in the order in which they were read, if the clock does not go back – and
`HybridTls.Locals.Fits` – the strings that were copied are no longer than what
they were copied from, or into.
-/

namespace HybridTls

open Raising

/-! ### The environment -/

/-- **What a probe meets.** -/
structure ProbeEnv where
  /-- The readings of `now_microseconds`, one after the other. -/
  clock : ℕ → UInt64
  /-- `tcp_connect_host`: the text of an error, or a descriptor. -/
  tcpConnect : Except Bytes ℕ
  /-- Whether `SSL_new` returns a connection. -/
  sslNew : Bool
  /-- `SSL_connect`: the error that is queued if it fails, if any is. -/
  sslConnect : Except (Option Bytes) Unit
  /-- The name of the negotiated group, if it has one. -/
  groupName : Option Bytes
  /-- `SSL_get_version`. -/
  version : Bytes
  /-- `SSL_get_cipher_name`. -/
  cipherName : Bytes
  /-- `SSL_write` of the request, as `sslConnect`. -/
  sslWrite : Except (Option Bytes) Unit
  /-- What `SSL_read` delivers, piece by piece, until it fails. -/
  pieces : List Bytes
  /-- `BIO_number_read` of the connection's read BIO, if it has one. -/
  numberRead : Option UInt64
  /-- `BIO_number_written` of the connection's write BIO, if it has one. -/
  numberWritten : Option UInt64

/-- `last_tls_error`. -/
def lastTlsError (queued : Option Bytes) : Bytes := queued.getD (lit "TLS operation failed")

/-- `tolower` in the C locale. -/
def toLower (b : UInt8) : UInt8 := if 65 ≤ b && b ≤ 90 then b + 32 else b

/-- `strcasecmp` finds no difference. -/
def sameIgnoringCase (a b : Bytes) : Bool := a.map toLower = b.map toLower

/-- The string at the start of a buffer. -/
def cString (buffer : Bytes) : Bytes := buffer.takeWhile (· ≠ 0)

/-! ### The local variables -/

/-- The local variables of `probe` that outlive the statement that sets them, how
often the clock has been read, and what has been sent. -/
structure Locals where
  socketFd : Option ℕ
  ssl : Bool
  connectionError : Bytes
  groupCopy : Bytes
  versionCopy : Bytes
  cipherCopy : Bytes
  /-- The part of `response` that has been read. -/
  response : Bytes
  request : Option Bytes
  started : UInt64
  connected : UInt64
  handshakeDone : UInt64
  firstByte : UInt64
  success : Bool
  readings : ℕ

/-- The local variables at the first statement. -/
def Locals.initial (env : ProbeEnv) : Locals where
  socketFd := none
  ssl := false
  connectionError := []
  groupCopy := []
  versionCopy := []
  cipherCopy := []
  response := []
  request := none
  started := env.clock 0
  connected := env.clock 0
  handshakeDone := env.clock 0
  firstByte := 0
  success := false
  readings := 1

/-- Statements of `probe`; an exception is a `goto finished`. -/
abbrev ProbeM := EStateM Unit Locals

/-- Read the clock into a variable. -/
def stamp (env : ProbeEnv) (set : UInt64 → Locals → Locals) : ProbeM Unit :=
  modify fun l => { set (env.clock l.readings) l with readings := l.readings + 1 }

/-- Write an error text into its buffer. -/
def setError (error : Bytes) : ProbeM Unit :=
  modify fun l => { l with connectionError := snprintf 512 error }

/-- `goto finished`. -/
def gotoFinished : ProbeM Unit := throw ()

/-! ### The phases -/

/-- The identifier of a sample, before it is formatted into its buffer. -/
def sampleIdText (runId mode : Bytes) (sequence : ℕ) : Bytes :=
  runId ++ lit "-" ++ mode ++ lit "-" ++ pad6 sequence

/-- The request, before it is formatted into its buffer. -/
def requestText (sampleId runId host : Bytes) (record : Bool) : Bytes :=
  lit "GET /probe?sample_id=" ++ sampleId ++ lit "&run_id=" ++ runId ++ lit "&record=" ++
    lit (if record then "1" else "0") ++ lit " HTTP/1.1\r\nHost: " ++ host ++
    lit "\r\nConnection: close\r\n\r\n"

/-- Connect. -/
def connectTcp (env : ProbeEnv) : ProbeM Unit :=
  match env.tcpConnect with
  | .ok fd => do
    modify fun l => { l with socketFd := some fd }
    stamp env fun t l => { l with connected := t }
  | .error error => do
    setError error
    -- the clock is read before the descriptor is checked
    stamp env fun t l => { l with connected := t }
    gotoFinished

/-- Create the TLS connection. -/
def createTls (env : ProbeEnv) : ProbeM Unit :=
  if env.sslNew then modify fun l => { l with ssl := true }
  else do
    setError (lit "SSL_new failed")
    gotoFinished

/-- Shake hands. -/
def handshake (env : ProbeEnv) : ProbeM Unit :=
  match env.sslConnect with
  | .ok _ => stamp env fun t l => { l with handshakeDone := t }
  | .error queued => do
    setError (lastTlsError queued)
    stamp env fun t l => { l with handshakeDone := t }
    gotoFinished

/-- Copy the names of what was negotiated, and check the group. -/
def checkGroup (env : ProbeEnv) (endpoint : Endpoint) : ProbeM Unit := do
  let group := copyGroup env.groupName
  modify fun l =>
    { l with
      groupCopy := group
      versionCopy := snprintf 50 env.version
      cipherCopy := snprintf 120 env.cipherName }
  if sameIgnoringCase group endpoint.group then pure ()
  else do
    setError (lit "negotiated " ++ group ++ lit " instead of " ++ endpoint.group)
    gotoFinished

/-- Send the request. -/
def sendRequest (env : ProbeEnv) (request : Bytes) : ProbeM Unit := do
  modify fun l => { l with request := some request }
  match env.sslWrite with
  | .ok _ => pure ()
  | .error queued => do
    setError (lastTlsError queued)
    gotoFinished

/-- Note the time of the first byte, unless it has been noted. -/
def stampFirstByte (env : ProbeEnv) : ProbeM Unit := do
  let l ← get
  if l.firstByte = 0 then stamp env fun t l => { l with firstByte := t } else pure ()

/-- One turn of the reading loop, `offset` bytes having been read: nothing
received ends the loop, and so does a full buffer. -/
def receive (env : ProbeEnv) (offset : ℕ) (received : Bytes) (next : ProbeM Unit) : ProbeM Unit :=
  if received = [] then pure ()
  else do
    stampFirstByte env
    modify fun l => { l with response := l.response ++ received }
    -- the last byte is for the terminating zero
    if 4095 ≤ offset + received.length then pure () else next

/-- The reading loop: a piece is delivered up to the room that is left. -/
def readReply (env : ProbeEnv) : List Bytes → ProbeM Unit
  | [] => pure ()
  | piece :: pieces => do
    let l ← get
    receive env l.response.length (piece.take (4096 - l.response.length - 1))
      (readReply env pieces)

/-- Check the reply. -/
def checkReply : ProbeM Unit := do
  let l ← get
  -- a first byte at time zero counts as none
  if l.firstByte = 0 ∨ Search.strstr (lit "HTTP/1.1 200 OK") (cString l.response) = none then do
    setError (lit "TLS endpoint returned no valid HTTP response")
    gotoFinished
  else pure ()

/-- `probe` up to its label `finished`. -/
def probeBody (env : ProbeEnv) (endpoint : Endpoint) (request : Bytes) : ProbeM Unit := do
  connectTcp env
  createTls env
  handshake env
  checkGroup env endpoint
  sendRequest env request
  readReply env env.pieces
  checkReply
  modify fun l => { l with success := true }

/-! ### What is reported -/

/-- The arguments of `record_client`. -/
structure ClientValues where
  sampleId : Bytes
  runId : Bytes
  mode : Bytes
  expectedGroup : Bytes
  negotiatedGroup : Bytes
  tlsVersion : Bytes
  cipher : Bytes
  tcpUs : UInt64
  handshakeUs : UInt64
  ttfbUs : UInt64
  totalUs : UInt64
  bytesSent : UInt64
  bytesReceived : UInt64
  success : Bool
  error : Bytes

/-- The values in the body `record_client` posts: the error is null on success,
and escaped otherwise. -/
def ClientValues.post (v : ClientValues) : ClientPost where
  sampleId := text v.sampleId
  runId := text v.runId
  mode := text v.mode
  expectedGroup := text v.expectedGroup
  negotiatedGroup := some (text v.negotiatedGroup)
  tlsVersion := some (text v.tlsVersion)
  cipher := some (text v.cipher)
  clientTcpUs := some v.tcpUs.toNat
  clientHandshakeUs := some v.handshakeUs.toNat
  clientTtfbUs := some v.ttfbUs.toNat
  clientTotalUs := some v.totalUs.toNat
  bytesSent := some v.bytesSent.toNat
  bytesReceived := some v.bytesReceived.toNat
  success := some v.success
  error := if v.success then none else some (text (jsonUnescape (jsonEscape v.error 1024)))

/-- What a probe leaves behind. -/
structure ProbeResult where
  /-- The value returned. -/
  code : ℤ
  /-- The request written, if it came to that. -/
  request : Option Bytes
  /-- What `record_client` was called with, if it was. -/
  posted : Option ClientValues
  /-- The descriptors closed. -/
  closed : List ℕ
  /-- How often the clock was read. -/
  readings : ℕ

/-- The local variables at the label `finished`. -/
def probeLocals (env : ProbeEnv) (endpoint : Endpoint) (request : Bytes) : Locals :=
  final (probeBody env endpoint request) (.initial env)

/-- What `record_client` is called with behind that label, where the clock is read
once more and the counters of the connection are read. -/
def Locals.values (l : Locals) (env : ProbeEnv) (options : ClientOptions) (endpoint : Endpoint)
    (sampleId : Bytes) : ClientValues where
  sampleId := sampleId
  runId := options.runId
  mode := endpoint.mode
  expectedGroup := endpoint.group
  negotiatedGroup := l.groupCopy
  tlsVersion := l.versionCopy
  cipher := l.cipherCopy
  tcpUs := l.connected - l.started
  handshakeUs := if l.connected ≤ l.handshakeDone then l.handshakeDone - l.connected else 0
  ttfbUs := if l.firstByte = 0 then 0 else l.firstByte - l.started
  totalUs := env.clock l.readings - l.started
  bytesSent := if l.ssl then env.numberWritten.getD 0 else 0
  bytesReceived := if l.ssl then env.numberRead.getD 0 else 0
  success := l.success
  error := l.connectionError

/-- `probe`. -/
def probe (env : ProbeEnv) (options : ClientOptions) (endpoint : Endpoint) (sequence : ℕ)
    (record : Bool) : ProbeResult :=
  let sampleId := snprintf 180 (sampleIdText options.runId endpoint.mode sequence)
  let request := snprintf 640 (requestText sampleId options.runId endpoint.host record)
  let l := probeLocals env endpoint request
  { code := if l.success then 0 else -1
    request := l.request
    posted := if record then some (l.values env options endpoint sampleId) else none
    closed := l.socketFd.toList
    readings := l.readings + 1 }

/-! ### Assignments -/

/-- **One assignment of `probe`** to its local variables. -/
inductive Assigns (env : ProbeEnv) (request : Bytes) (l : Locals) : Locals → Prop where
  | socketFd (fd : ℕ) : Assigns env request l { l with socketFd := some fd }
  | ssl : Assigns env request l { l with ssl := true }
  | error (error : Bytes) : Assigns env request l { l with connectionError := snprintf 512 error }
  | names : Assigns env request l
      { l with
        groupCopy := copyGroup env.groupName
        versionCopy := snprintf 50 env.version
        cipherCopy := snprintf 120 env.cipherName }
  | request : Assigns env request l { l with request := some request }
  | response (received : Bytes) : Assigns env request l
      { l with response := l.response ++ received }
  | connected : Assigns env request l
      { l with connected := env.clock l.readings, readings := l.readings + 1 }
  | handshakeDone : Assigns env request l
      { l with handshakeDone := env.clock l.readings, readings := l.readings + 1 }
  | firstByte : Assigns env request l
      { l with firstByte := env.clock l.readings, readings := l.readings + 1 }
  | success : Assigns env request l { l with success := true }

section Assigns

variable {env : ProbeEnv} {endpoint : Endpoint} {request : Bytes}

/-- A statement, or a sequence of them, does nothing but assign. -/
abbrev OnlyAssigns {α : Type} (env : ProbeEnv) (request : Bytes) (x : ProbeM α) : Prop :=
  Keeps (Relation.ReflTransGen (Assigns env request)) x

theorem onlyAssigns_bind {α β : Type} {x : ProbeM α} {f : α → ProbeM β}
    (hx : OnlyAssigns env request x) (hf : ∀ a, OnlyAssigns env request (f a)) :
    OnlyAssigns env request (x >>= f) :=
  Keeps.bind (fun _ _ _ => Relation.ReflTransGen.trans) hx hf

theorem onlyAssigns_modify {f : Locals → Locals} (hf : ∀ l, Assigns env request l (f l)) :
    OnlyAssigns env request (modify f) :=
  keeps_modify fun l => Relation.ReflTransGen.single (hf l)

/-- An error is written, and the probe is finished. -/
theorem onlyAssigns_setError_goto (error : Bytes) :
    OnlyAssigns env request (do setError error; gotoFinished) :=
  onlyAssigns_bind (onlyAssigns_modify fun _ => .error error) fun _ =>
    keeps_throw (fun _ => Relation.ReflTransGen.refl) ()

theorem onlyAssigns_connectTcp : OnlyAssigns env request (connectTcp env) := by
  have hstamp : OnlyAssigns env request (stamp env fun t l => { l with connected := t }) :=
    onlyAssigns_modify fun _ => .connected
  unfold connectTcp
  cases env.tcpConnect with
  | ok fd => exact onlyAssigns_bind (onlyAssigns_modify fun _ => .socketFd fd) fun _ => hstamp
  | error error =>
    exact onlyAssigns_bind (onlyAssigns_modify fun _ => .error error) fun _ =>
      onlyAssigns_bind hstamp fun _ => keeps_throw (fun _ => Relation.ReflTransGen.refl) ()

theorem onlyAssigns_createTls : OnlyAssigns env request (createTls env) := by
  unfold createTls
  cases env.sslNew with
  | true => exact onlyAssigns_modify fun _ => .ssl
  | false => exact onlyAssigns_setError_goto _

theorem onlyAssigns_handshake : OnlyAssigns env request (handshake env) := by
  have hstamp : OnlyAssigns env request (stamp env fun t l => { l with handshakeDone := t }) :=
    onlyAssigns_modify fun _ => .handshakeDone
  unfold handshake
  cases env.sslConnect with
  | ok _ => exact hstamp
  | error queued =>
    exact onlyAssigns_bind (onlyAssigns_modify fun _ => .error _) fun _ =>
      onlyAssigns_bind hstamp fun _ => keeps_throw (fun _ => Relation.ReflTransGen.refl) ()

/-- **What the phases behind the handshake keep**: a relation that contains the assignments
to variables other than the descriptor and the times of the phases before. -/
structure KeptBehind (env : ProbeEnv) (request : Bytes) (R : Locals → Locals → Prop) : Prop where
  refl : ∀ l, R l l
  trans : ∀ l₁ l₂ l₃, R l₁ l₂ → R l₂ l₃ → R l₁ l₃
  assign : ∀ l l', Assigns env request l l' → l'.socketFd = l.socketFd →
    l'.connected = l.connected → l'.handshakeDone = l.handshakeDone → R l l'

section KeptBehind

variable {R : Locals → Locals → Prop}

theorem KeptBehind.setError_goto (hR : KeptBehind env request R) (error : Bytes) :
    Keeps R (do setError error; gotoFinished) :=
  Keeps.bind hR.trans (keeps_modify fun l => hR.assign l _ (.error error) rfl rfl rfl) fun _ =>
    keeps_throw hR.refl ()

theorem KeptBehind.checkGroup (hR : KeptBehind env request R) :
    Keeps R (checkGroup env endpoint) := by
  refine Keeps.bind hR.trans (keeps_modify fun l => hR.assign l _ .names rfl rfl rfl) fun _ => ?_
  split
  · exact keeps_pure hR.refl ()
  · exact hR.setError_goto _

theorem KeptBehind.sendRequest (hR : KeptBehind env request R) :
    Keeps R (sendRequest env request) := by
  refine Keeps.bind hR.trans (keeps_modify fun l => hR.assign l _ .request rfl rfl rfl) fun _ => ?_
  cases env.sslWrite with
  | ok _ => exact keeps_pure hR.refl ()
  | error queued => exact hR.setError_goto _

theorem KeptBehind.stampFirstByte (hR : KeptBehind env request R) :
    Keeps R (stampFirstByte env) := by
  refine Keeps.bind hR.trans (keeps_get hR.refl) fun l => ?_
  split
  · exact keeps_modify fun l => hR.assign l _ .firstByte rfl rfl rfl
  · exact keeps_pure hR.refl ()

/-- The loop, by induction on the pieces still to come. -/
theorem KeptBehind.readReply (hR : KeptBehind env request R) (pieces : List Bytes) :
    Keeps R (readReply env pieces) := by
  induction pieces with
  | nil => exact keeps_pure hR.refl ()
  | cons piece pieces ih =>
    refine Keeps.bind hR.trans (keeps_get hR.refl) fun l => ?_
    unfold receive
    split
    · exact keeps_pure hR.refl ()
    refine Keeps.bind hR.trans hR.stampFirstByte fun _ => ?_
    refine Keeps.bind hR.trans
      (keeps_modify fun l => hR.assign l _ (.response _) rfl rfl rfl) fun _ => ?_
    split
    · exact keeps_pure hR.refl ()
    · exact ih

theorem KeptBehind.checkReply (hR : KeptBehind env request R) : Keeps R checkReply := by
  refine Keeps.bind hR.trans (keeps_get hR.refl) fun l => ?_
  split
  · exact hR.setError_goto _
  · exact keeps_pure hR.refl ()

/-- Assignments are kept behind the handshake too. -/
theorem keptBehind_assigns : KeptBehind env request (Relation.ReflTransGen (Assigns env request)) :=
  ⟨fun _ => .refl, fun _ _ _ => .trans, fun _ _ h _ _ _ => .single h⟩

end KeptBehind

theorem onlyAssigns_probeBody : OnlyAssigns env request (probeBody env endpoint request) :=
  onlyAssigns_bind onlyAssigns_connectTcp fun _ => onlyAssigns_bind onlyAssigns_createTls fun _ =>
    onlyAssigns_bind onlyAssigns_handshake fun _ =>
      onlyAssigns_bind keptBehind_assigns.checkGroup fun _ =>
        onlyAssigns_bind keptBehind_assigns.sendRequest fun _ =>
          onlyAssigns_bind (keptBehind_assigns.readReply env.pieces) fun _ =>
            onlyAssigns_bind keptBehind_assigns.checkReply fun _ =>
              onlyAssigns_modify fun _ => .success

/-- **Induction over the assignments of a probe**: what holds at its first
statement and is kept by every assignment holds when it is finished. -/
theorem probeLocals_induction {P : Locals → Prop} (hinit : P (.initial env))
    (hassign : ∀ l l', Assigns env request l l' → P l → P l') :
    P (probeLocals env endpoint request) := by
  have hpath : Relation.ReflTransGen (Assigns env request) (.initial env)
      (probeLocals env endpoint request) := onlyAssigns_probeBody _
  generalize probeLocals env endpoint request = l at hpath
  induction hpath with
  | refl => exact hinit
  | tail _ hstep ih => exact hassign _ _ hstep ih

end Assigns

/-! ### What holds when a probe is finished -/

/-- **The times are in order**: the clock was first read at the start, the other
times do not precede it, and no reading still to come precedes them. -/
structure Locals.Timed (env : ProbeEnv) (l : Locals) : Prop where
  started : l.started = env.clock 0
  connected : l.started ≤ l.connected
  firstByte : l.firstByte = 0 ∨ l.started ≤ l.firstByte
  past : ∀ k ≥ l.readings, l.connected ≤ env.clock k ∧ l.handshakeDone ≤ env.clock k ∧
    l.firstByte ≤ env.clock k

/-- The strings that have been copied fit the schemas. -/
structure Locals.Fits (l : Locals) : Prop where
  connectionError : l.connectionError.length ≤ 511
  groupCopy : l.groupCopy.length ≤ 80
  versionCopy : l.versionCopy.length ≤ 40
  cipherCopy : l.cipherCopy.length ≤ 100

section Finished

variable {env : ProbeEnv} {endpoint : Endpoint} {request : Bytes}

theorem timed_probeLocals (hclock : ∀ i j, i ≤ j → env.clock i ≤ env.clock j) :
    (probeLocals env endpoint request).Timed env := by
  refine probeLocals_induction ?_ fun l l' hassign hl => ?_
  · have hzero : (0 : UInt64) ≤ env.clock 0 := UInt64.zero_le
    exact ⟨rfl, UInt64.le_refl _, Or.inl rfl, fun k _ => ⟨hclock 0 k k.zero_le,
      hclock 0 k k.zero_le, UInt64.le_trans hzero (hclock 0 k k.zero_le)⟩⟩
  -- an assignment that reads the clock moves the past on by one reading
  · have hlater : ∀ k ≥ l.readings + 1, l.readings ≤ k := fun k hk => Nat.le_of_succ_le hk
    have hstart : l.started ≤ env.clock l.readings :=
      UInt64.le_trans hl.connected (hl.past _ (Nat.le_refl _)).1
    cases hassign with
    | connected =>
      exact ⟨hl.started, hstart, hl.firstByte, fun k hk =>
        ⟨hclock _ k (hlater k hk), (hl.past k (hlater k hk)).2⟩⟩
    | handshakeDone =>
      exact ⟨hl.started, hl.connected, hl.firstByte, fun k hk =>
        ⟨(hl.past k (hlater k hk)).1, hclock _ k (hlater k hk), (hl.past k (hlater k hk)).2.2⟩⟩
    | firstByte =>
      exact ⟨hl.started, hl.connected, Or.inr hstart, fun k hk =>
        ⟨(hl.past k (hlater k hk)).1, (hl.past k (hlater k hk)).2.1, hclock _ k (hlater k hk)⟩⟩
    | _ => exact ⟨hl.started, hl.connected, hl.firstByte, hl.past⟩

theorem fits_probeLocals (hnames : NamesFit env.groupName env.version env.cipherName) :
    (probeLocals env endpoint request).Fits := by
  refine probeLocals_induction ?_ fun l l' hassign hl => ?_
  · constructor <;> exact Nat.zero_le _
  · cases hassign with
    | error error =>
      exact ⟨length_snprintf_le 512 error, hl.groupCopy, hl.versionCopy, hl.cipherCopy⟩
    | names =>
      exact ⟨hl.connectionError, hnames.length_copyGroup_le, hnames.length_copyVersion_le,
        hnames.length_copyCipher_le⟩
    | _ => exact ⟨hl.connectionError, hl.groupCopy, hl.versionCopy, hl.cipherCopy⟩

/-- If a request has been written, it is the one that was formatted. -/
theorem eq_of_request_probeLocals {written : Bytes}
    (h : (probeLocals env endpoint request).request = some written) : written = request := by
  have hkept : ∀ r ∈ (probeLocals env endpoint request).request, r = request := by
    refine probeLocals_induction (P := fun l => ∀ r ∈ l.request, r = request) ?_
      fun l l' hassign hl => ?_
    · rintro _ ⟨⟩
    · cases hassign with
      | request =>
        rintro _ ⟨⟩
        rfl
      | _ => exact hl
  exact hkept written h

end Finished

end HybridTls

import HybridTls.Tls.Probe

/-!
# One connection of the TLS server

`handle_connection` of the TLS server: accept a handshake, read a request, find
out which sample it is for, answer, and post the measurement if the request asks
for it.

A request is looked at as a C string, and its parameters are looked up by
searching for their names (`HybridTls.extractQueryValue`). Whatever the peer
sends, a sample the server records has a valid identifier that fits its buffer
(`HybridTls.identify_valid`).
-/

namespace HybridTls

open Search

/-! ### Options -/

/-- `ServerOptions`. -/
structure ServerOptions where
  port : ℤ
  group : Bytes
  mode : Bytes
  certificate : Bytes
  privateKey : Bytes
  dashboardHost : Bytes
  dashboardPort : Bytes
  deriving DecidableEq, Repr

/-- The options before the first argument is read. -/
def ServerOptions.default : ServerOptions where
  port := 4433
  group := lit "X25519"
  mode := lit "classical"
  certificate := lit "/opt/tls/certs/server.crt"
  privateKey := lit "/opt/tls/certs/server.key"
  dashboardHost := lit "dashboard"
  dashboardPort := lit "8000"

/-- The options, in the order in which `parse_options` compares their names. -/
def serverOptionTable : List (Bytes × (Bytes → ServerOptions → ServerOptions)) :=
  [(lit "--port", fun value o => { o with port := atoi value }),
    (lit "--group", fun value o => { o with group := value }),
    (lit "--mode", fun value o => { o with mode := value }),
    (lit "--cert", fun value o => { o with certificate := value }),
    (lit "--key", fun value o => { o with privateKey := value }),
    (lit "--dashboard-host", fun value o => { o with dashboardHost := value }),
    (lit "--dashboard-port", fun value o => { o with dashboardPort := value })]

/-- Apply one option: none if there is no such name. -/
def ServerOptions.set (o : ServerOptions) (name value : Bytes) : Option ServerOptions :=
  (serverOptionTable.find? fun option => option.1 = name).map fun option => option.2 value o

/-- The loop of `parse_options` over the arguments behind the program's name. -/
def parseServerArguments (o : ServerOptions) : List Bytes → Option ServerOptions
  | [] => some o
  -- no name is looked at without a value behind it
  | [_] => none
  | name :: value :: rest => (o.set name value).bind (parseServerArguments · rest)

/-- `valid_mode`. -/
def validMode (mode : Bytes) : Bool :=
  mode = lit "classical" || mode = lit "hybrid" || mode = lit "hybrid_p256"

/-- `parse_options` of the server. -/
def parseServerOptions (arguments : List Bytes) : Option ServerOptions := do
  let o ← parseServerArguments .default arguments
  if o.port < 1 || o.port > 65535 || !validMode o.mode then none
  return o

theorem validMode_of_parseServerOptions {arguments : List Bytes} {o : ServerOptions}
    (h : parseServerOptions arguments = some o) : ∃ m : Mode, o.mode = lit m.text := by
  simp only [parseServerOptions, Option.bind_eq_bind, Option.bind_eq_some_iff,
    Option.pure_def] at h
  obtain ⟨o', -, h⟩ := h
  split at h
  · simp at h
  next hcheck =>
    obtain rfl : o' = o := by simpa using h
    have hmode : validMode o'.mode := by
      by_contra hmode
      exact hcheck (by simp [hmode])
    simp only [validMode, Bool.or_eq_true, decide_eq_true_eq] at hmode
    rcases hmode with (hmode | hmode) | hmode
    · exact ⟨.classical, hmode⟩
    · exact ⟨.hybrid, hmode⟩
    · exact ⟨.hybridP256, hmode⟩

/-! ### Looking a parameter up -/

/-- The bytes that belong to the value of a parameter. -/
def isValueByte (b : UInt8) : Bool := b ≠ 38 && b ≠ 32 && b ≠ 13 && b ≠ 10

theorem isValueByte_of_isIdentifierByte : ∀ b : UInt8, isIdentifierByte b → isValueByte b :=
  forall_byte (by decide +kernel)

/-- Copy a value into a buffer, if there is one and it fits: whether the copy is a
valid identifier, and what is in the buffer then. -/
def copyValue (value output : Bytes) (outputSize : ℕ) : Bool × Bytes :=
  if value.length = 0 ∨ outputSize ≤ value.length then (false, output)
  -- the copy is made before it is checked
  else (validIdentifier value, value)

theorem lit_equals : lit "=" = [61] := by decide

/-- What `extract_query_value` searches for. -/
def queryPattern (name : Bytes) : Bytes := snprintf 64 (name ++ lit "=")

/-- `extract_query_value`: whether it returns 0, and what is in the output
buffer then. -/
def extractQueryValue (request name output : Bytes) (outputSize : ℕ) : Bool × Bytes :=
  match strstr (queryPattern name) request with
  | none => (false, output)
  | some start =>
    copyValue ((start.drop (queryPattern name).length).takeWhile isValueByte) output outputSize

/-- The local variables of `handle_connection` that say which sample a request is
for. -/
structure Identified where
  recordSample : Bool
  sampleId : Bytes
  runId : Bytes

/-- The decision to record, which looks a parameter up only if all before it was
found. -/
def identify (request : Bytes) : Identified :=
  if (strstr (lit "record=1") request).isNone then ⟨false, [], []⟩
  else
    let sample := extractQueryValue request (lit "sample_id") [] 180
    if !sample.1 then ⟨false, sample.2, []⟩
    else
      let run := extractQueryValue request (lit "run_id") [] 140
      ⟨run.1, sample.2, run.2⟩

theorem copyValue_valid {value output : Bytes} {outputSize : ℕ}
    (h : (copyValue value output outputSize).1) :
    validIdentifier (copyValue value output outputSize).2 ∧
      (copyValue value output outputSize).2.length < outputSize := by
  unfold copyValue at h ⊢
  split at h
  · simp at h
  next hlen =>
    rw [if_neg hlen]
    exact ⟨h, Nat.lt_of_not_le fun hle => hlen (Or.inr hle)⟩

/-- A value that is extracted is a valid identifier that fits the buffer. -/
theorem extractQueryValue_valid {request name output : Bytes} {outputSize : ℕ}
    (h : (extractQueryValue request name output outputSize).1) :
    validIdentifier (extractQueryValue request name output outputSize).2 ∧
      (extractQueryValue request name output outputSize).2.length < outputSize := by
  unfold extractQueryValue at h ⊢
  split at h
  · simp at h
  · exact copyValue_valid h

/-- A parameter that is found has the value up to the next byte that ends one. -/
theorem extractQueryValue_of_strstr {request name value rest : Bytes} {b : UInt8}
    {outputSize : ℕ} (output : Bytes) (hname : name.length < 63)
    (hfound : strstr (name ++ [61]) request = some (name ++ 61 :: (value ++ b :: rest)))
    (hvalue : validIdentifier value) (hlen : value.length < outputSize)
    (hb : isValueByte b = false) :
    extractQueryValue request name output outputSize = (true, value) := by
  have hpattern : queryPattern name = name ++ [61] :=
    snprintf_of_lt (by simpa [lit_equals] using Nat.succ_lt_succ hname)
  obtain ⟨hpos, -, hall⟩ := validIdentifier_iff.mp hvalue
  have hbytes : ∀ c ∈ value, isValueByte c := fun c hc =>
    isValueByte_of_isIdentifierByte c (hall c hc)
  -- behind the pattern stands the value
  have hdrop : (name ++ 61 :: (value ++ b :: rest)).drop (name ++ [61]).length =
      value ++ b :: rest := by
    rw [List.append_cons name 61 (value ++ b :: rest)]
    exact List.drop_left
  rw [extractQueryValue, hpattern, hfound]
  simp only
  rw [hdrop, takeWhile_append_cons hbytes hb, copyValue, if_neg (by omega), hvalue]

/-- **What the server records has valid identifiers**, whatever the request. -/
theorem identify_valid {request : Bytes} (h : (identify request).recordSample) :
    validIdentifier (identify request).sampleId ∧ validIdentifier (identify request).runId := by
  simp only [identify] at h ⊢
  split at h
  · simp at h
  split at h
  · simp at h
  next hrecord hsample =>
    simp only [if_neg hrecord, if_neg hsample]
    exact ⟨(extractQueryValue_valid (by simpa using hsample)).1, (extractQueryValue_valid h).1⟩

/-! ### The connection -/

/-- **What a connection meets.** -/
structure ServerEnv where
  /-- The readings of `now_microseconds`, one after the other. -/
  clock : ℕ → UInt64
  /-- Whether `SSL_new` returns a connection. -/
  sslNew : Bool
  /-- Whether `SSL_accept` succeeds. -/
  sslAccept : Bool
  /-- What the one `SSL_read` delivers, if it succeeds. -/
  request : Option Bytes
  /-- The name of the negotiated group, if it has one. -/
  groupName : Option Bytes
  /-- `SSL_get_version`. -/
  version : Bytes
  /-- `SSL_get_cipher_name`. -/
  cipherName : Bytes

/-- A connection over which `request` arrives, after a handshake of `t`
microseconds. -/
def ServerEnv.receiving (t : UInt64) (request : Bytes) : ServerEnv where
  clock n := if n = 0 then 0 else t
  sslNew := true
  sslAccept := true
  request := some request
  groupName := some (lit "X25519")
  version := lit "TLSv1.3"
  cipherName := lit "TLS_AES_256_GCM_SHA384"

/-- The local variables of `handle_connection` once the request has been read. -/
structure Served extends Identified where
  negotiatedGroup : Bytes
  tlsVersion : Bytes
  cipher : Bytes
  handshakeUs : UInt64

/-- `handle_connection`, up to what it sends: none where the connection is closed
before a request has been read. -/
def handleConnection (env : ServerEnv) : Option Served :=
  if !env.sslNew || !env.sslAccept then none
  else match env.request with
    | none => none
    | some received => some
      -- the request ends at its first zero, if it has one
      { toIdentified := identify (cString (received.take 2047))
        negotiatedGroup := copyGroup env.groupName
        tlsVersion := snprintf 50 env.version
        cipher := snprintf 120 env.cipherName
        handshakeUs := env.clock 1 - env.clock 0 }

/-- A connection that is served has delivered a request. -/
theorem handleConnection_eq_some {env : ServerEnv} {s : Served}
    (h : handleConnection env = some s) :
    ∃ received, env.request = some received ∧
      s = { toIdentified := identify (cString (received.take 2047))
            negotiatedGroup := copyGroup env.groupName
            tlsVersion := snprintf 50 env.version
            cipher := snprintf 120 env.cipherName
            handshakeUs := env.clock 1 - env.clock 0 } := by
  simp only [handleConnection] at h
  split at h
  · simp at h
  · split at h
    · simp at h
    next received hreceived => exact ⟨received, hreceived, (Option.some.inj h).symm⟩

/-- The values in the body `handle_connection` posts. -/
def Served.post (s : Served) (options : ServerOptions) : ServerPost where
  sampleId := text s.sampleId
  runId := text s.runId
  mode := text options.mode
  expectedGroup := text options.group
  negotiatedGroup := some (text s.negotiatedGroup)
  tlsVersion := some (text s.tlsVersion)
  cipher := some (text s.cipher)
  serverHandshakeUs := s.handshakeUs.toNat

/-- What `handle_connection` posts, if it posts anything. -/
def Served.posted (s : Served) (options : ServerOptions) : Option ServerPost :=
  if s.recordSample then some (s.post options) else none

end HybridTls

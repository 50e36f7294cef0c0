import HybridTls.Tls.Agreement
import HybridTls.Tls.Opening
import HybridTls.Tls.Reading
import HybridTls.Tls.Response

/-!
# One connection, from both ends

A probe and the `handle_connection` that it talks to, on one connection on which nothing
fails: the server reads what the client has written, and the client reads what the server
has answered, in whatever pieces it arrives (`HybridTls.Exchange`).

The only thing that can then be wrong is the group. If it is the one of the endpoint, the
client finds the status line in the answer, whatever else is in it, and the probe succeeds;
if it is another, the client does not write anything, and the server does not answer. So the
two parties never disagree on what they have seen (`HybridTls.exchange_agrees`): where both
report a sample, the reports have the same columns in common, and where the client reports a
failure, the server reports nothing.
-/

namespace HybridTls

open Raising Search

/-- **A connection on which nothing fails**, between the probe of a mode and the server of
the same mode. -/
structure Exchange (options : ClientOptions) (m : Mode) (sequence : ℕ) (record : Bool)
    (o : ServerOptions) (c : ProbeEnv) (e : ServerEnv) : Prop where
  tcpConnect : ∃ fd, c.tcpConnect = .ok fd
  sslNew : c.sslNew = true
  sslConnect : c.sslConnect = .ok ()
  sslWrite : c.sslWrite = .ok ()
  /-- The monotonic clock does not read zero. -/
  clock : c.clock 3 ≠ 0
  serverNew : e.sslNew = true
  sslAccept : e.sslAccept = true
  /-- One handshake has one result. -/
  groupName : e.groupName = c.groupName
  version : e.version = c.version
  cipherName : e.cipherName = c.cipherName
  /-- The server has been started for the endpoint. -/
  mode : o.mode = lit m.text
  group : o.group = m.group
  /-- What the server reads, if it can read anything. -/
  asked : e.request = (probe c options (options.endpoint m) sequence record).request
  /-- What the client reads. -/
  answered : ∀ s, handleConnection e = some s → ∀ reply ∈ s.response o,
    c.pieces.flatten = reply ∧ ∀ piece ∈ c.pieces, piece ≠ []

/-! ### The client's phases -/

section Phases

variable {env : ProbeEnv} {endpoint : Endpoint} {request : Bytes}

/-- The local variables behind a handshake that has been made. -/
def Locals.shaken (env : ProbeEnv) (fd : ℕ) : Locals :=
  { Locals.initial env with
    socketFd := some fd
    ssl := true
    connected := env.clock 1
    handshakeDone := env.clock 2
    readings := 3 }

theorem opening_of_ok {fd : ℕ} (htcp : env.tcpConnect = .ok fd) (hnew : env.sslNew = true)
    (hconnect : env.sslConnect = .ok ()) :
    opening env (.initial env) = .ok () (.shaken env fd) := by
  rw [opening_eq, htcp]
  simp only [hnew, if_true, hconnect]
  rfl

/-- Copying the names. -/
def Locals.named (env : ProbeEnv) (l : Locals) : Locals :=
  { l with
    groupCopy := copyGroup env.groupName
    versionCopy := snprintf 50 env.version
    cipherCopy := snprintf 120 env.cipherName }

/-- **The group decides** whether the request is written. -/
theorem asking_eq (hwrite : env.sslWrite = .ok ()) (l : Locals) :
    asking env endpoint request l =
      if sameIgnoringCase (copyGroup env.groupName) endpoint.group then
        .ok () { l.named env with request := some request }
      else .error () { l.named env with
        connectionError := snprintf 512 (lit "negotiated " ++ copyGroup env.groupName ++
          lit " instead of " ++ endpoint.group) } := by
  have hnames : (modify fun l : Locals =>
      { l with
        groupCopy := copyGroup env.groupName
        versionCopy := snprintf 50 env.version
        cipherCopy := snprintf 120 env.cipherName } : ProbeM Unit) l = .ok () (l.named env) := rfl
  by_cases hsame : sameIgnoringCase (copyGroup env.groupName) endpoint.group = true
  · have hcheck : checkGroup env endpoint l = .ok () (l.named env) := by
      rw [checkGroup, bind_of_ok hnames, if_pos hsame]
      rfl
    rw [if_pos hsame, asking, bind_of_ok hcheck, sendRequest]
    simp only [hwrite]
    rfl
  · have hcheck : checkGroup env endpoint l = .error () { l.named env with
        connectionError := snprintf 512 (lit "negotiated " ++ copyGroup env.groupName ++
          lit " instead of " ++ endpoint.group) } := by
      rw [checkGroup, bind_of_ok hnames, if_neg hsame]
      rfl
    rw [if_neg hsame, asking]
    exact bind_eq_error.mpr (Or.inl hcheck)

/-- **An answer that begins with the status line is accepted**, however it arrives. -/
theorem success_answering {l : Locals} (hl : l.Unread) (hclock : env.clock 3 ≠ 0)
    {rest : Bytes} (hpieces : ∀ piece ∈ env.pieces, piece ≠ [])
    (hflatten : env.pieces.flatten = lit "HTTP/1.1 200 OK" ++ rest) :
    (final (answering env) l).success = true ∧ (final (answering env) l).request = l.request ∧
      (final (answering env) l).groupCopy = l.groupCopy ∧
      (final (answering env) l).versionCopy = l.versionCopy ∧
      (final (answering env) l).cipherCopy = l.cipherCopy := by
  have hne : env.pieces ≠ [] := by
    intro hnil
    rw [hnil, List.flatten_nil] at hflatten
    exact absurd hflatten.symm (List.append_ne_nil_of_left_ne_nil (by decide) _)
  have hfirst : l.firstByte = 0 → env.clock l.readings ≠ 0 := fun _ => by rwa [hl.readings]
  have hread := readReply_eq env.pieces hpieces l hfirst (by rw [hl.response]; decide)
  rw [if_neg hne, hl.response, List.nil_append, hflatten] at hread
  -- the status line is in the buffer, and there is no zero in it
  have hlength : (lit "HTTP/1.1 200 OK").length = 15 := by decide
  have htake : (lit "HTTP/1.1 200 OK" ++ rest).take 4095 =
      lit "HTTP/1.1 200 OK" ++ rest.take 4080 := by
    rw [List.take_append, hlength, List.take_of_length_le (by omega)]
  have hstring : cString (lit "HTTP/1.1 200 OK" ++ rest.take 4080) =
      lit "HTTP/1.1 200 OK" ++ cString (rest.take 4080) :=
    List.takeWhile_append_of_pos (by decide +kernel)
  have hfound : strstr (lit "HTTP/1.1 200 OK")
      (cString (lit "HTTP/1.1 200 OK" ++ rest.take 4080)) ≠ none := by
    rw [hstring, ← Option.isSome_iff_ne_none, isSome_strstr_iff]
    exact List.prefix_append _ _ |>.isInfix
  have hnonzero : (l.stamped env).firstByte ≠ 0 := by
    rw [Locals.stamped, if_pos hl.firstByte]
    exact hfirst hl.firstByte
  rw [htake] at hread
  have hcheck : checkReply { l.stamped env with
      response := lit "HTTP/1.1 200 OK" ++ rest.take 4080 } =
      .ok () { l.stamped env with response := lit "HTTP/1.1 200 OK" ++ rest.take 4080 } := by
    have hget : (get : ProbeM Locals) { l.stamped env with
        response := lit "HTTP/1.1 200 OK" ++ rest.take 4080 } = .ok _ _ := rfl
    rw [checkReply, bind_of_ok hget, if_neg (by rintro (h | h); exacts [hnonzero h, hfound h])]
    rfl
  have hanswering : answering env l = .ok () { l.stamped env with
      response := lit "HTTP/1.1 200 OK" ++ rest.take 4080
      success := true } := by
    rw [answering, bind_of_ok hread, bind_of_ok hcheck]
    rfl
  have hfinal : final (answering env) l = { l.stamped env with
      response := lit "HTTP/1.1 200 OK" ++ rest.take 4080
      success := true } := by
    rw [final, hanswering]
  have hstamped : l.stamped env =
      { l with firstByte := env.clock l.readings, readings := l.readings + 1 } :=
    if_pos hl.firstByte
  rw [hfinal, hstamped]
  exact ⟨rfl, rfl, rfl, rfl, rfl⟩

/-- What has been written stays so while the answer is read. -/
theorem request_answering {l : Locals} (hl : l.request = some request) :
    (final (answering env) l).request = some request := by
  have hkept : KeptBehind env request fun l l' =>
      l.request = some request → l'.request = some request := by
    refine ⟨fun _ => id, fun _ _ _ h h' => h' ∘ h, fun l l' hassign _ _ _ h => ?_⟩
    cases hassign with
    | request => rfl
    | _ => exact h
  have hkeeps : Keeps (fun l l' => l.request = some request → l'.request = some request)
      (answering env) := by
    refine Keeps.bind hkept.trans (hkept.readReply env.pieces) fun _ => ?_
    refine Keeps.bind hkept.trans hkept.checkReply fun _ => ?_
    exact keeps_modify fun l => hkept.assign l _ .success rfl rfl rfl
  exact hkeeps l hl

end Phases

/-! ### Both ends -/

section Exchange

variable {options : ClientOptions} {m : Mode} {sequence : ℕ} {record : Bool} {o : ServerOptions}
  {c : ProbeEnv} {e : ServerEnv}

/-- The server's answer begins with the status line, and is always sent. -/
theorem exists_response (s : Served) (o : ServerOptions) :
    ∃ rest, s.response o = some (lit "HTTP/1.1 200 OK" ++ rest) := by
  have hbody : (s.responseBody o).length < 768 :=
    Nat.lt_succ_of_le (length_snprintf_le 768 _)
  have hhead : lit "HTTP/1.1 200 OK\r\nContent-Type: application/json\r\nContent-Length: " =
      lit "HTTP/1.1 200 OK" ++
        lit "\r\nContent-Type: application/json\r\nContent-Length: " := by
    decide +kernel
  rw [response_eq hbody, responseHead, hhead]
  simp only [List.append_assoc]
  exact ⟨_, rfl⟩

/-- **A probe that finds the wrong group** fails, and nobody writes anything. -/
theorem Exchange.refused (h : Exchange options m sequence record o c e)
    (hgroup : sameIgnoringCase (copyGroup c.groupName) (options.endpoint m).group = false) :
    (finished c options (options.endpoint m) sequence record).success = false ∧
      handleConnection e = none := by
  obtain ⟨fd, hfd⟩ := h.tcpConnect
  have hfinal : (finished c options (options.endpoint m) sequence record).success = false ∧
      (finished c options (options.endpoint m) sequence record).request = none := by
    rw [finished, probeLocals, probeBody_eq, final_bind,
      opening_of_ok hfd h.sslNew h.sslConnect]
    dsimp only
    rw [final_bind, asking_eq h.sslWrite, if_neg (by rw [hgroup]; exact Bool.false_ne_true)]
    exact ⟨rfl, rfl⟩
  refine ⟨hfinal.1, ?_⟩
  have hnone : e.request = none := h.asked.trans hfinal.2
  rw [handleConnection, hnone]
  split <;> rfl

/-- The local variables when the answer is about to be read. -/
def Locals.asked (env : ProbeEnv) (fd : ℕ) (request : Bytes) : Locals :=
  { (Locals.shaken env fd).named env with request := some request }

/-- **A probe that finds its group** reads the answer. -/
theorem Exchange.finished_eq (h : Exchange options m sequence record o c e) {fd : ℕ}
    (hfd : c.tcpConnect = .ok fd)
    (hgroup : sameIgnoringCase (copyGroup c.groupName) (options.endpoint m).group = true) :
    finished c options (options.endpoint m) sequence record = final (answering c)
      (.asked c fd (probeRequest options (options.endpoint m) sequence record)) := by
  rw [finished, probeLocals, probeBody_eq, final_bind, opening_of_ok hfd h.sslNew h.sslConnect]
  dsimp only
  rw [final_bind, asking_eq h.sslWrite, if_pos hgroup]
  rfl

/-- **It succeeds**, and has been served. -/
theorem Exchange.accepted (h : Exchange options m sequence record o c e)
    (hgroup : sameIgnoringCase (copyGroup c.groupName) (options.endpoint m).group = true) :
    (finished c options (options.endpoint m) sequence record).success = true ∧
      ∃ s, handleConnection e = some s ∧
        s.toIdentified = identify (cString ((probeRequest options (options.endpoint m) sequence
          record).take 2047)) ∧
        (finished c options (options.endpoint m) sequence record).groupCopy =
          s.negotiatedGroup ∧
        (finished c options (options.endpoint m) sequence record).versionCopy = s.tlsVersion ∧
        (finished c options (options.endpoint m) sequence record).cipherCopy = s.cipher := by
  obtain ⟨fd, hfd⟩ := h.tcpConnect
  have hfinished := h.finished_eq hfd hgroup
  have hrequest : e.request =
      some (probeRequest options (options.endpoint m) sequence record) := by
    refine h.asked.trans ?_
    show (finished c options (options.endpoint m) sequence record).request = _
    rw [hfinished]
    exact request_answering rfl
  -- so the server answers
  obtain ⟨s, hs⟩ : ∃ s, handleConnection e = some s := by
    rw [handleConnection, hrequest, h.serverNew, h.sslAccept]
    exact ⟨_, rfl⟩
  obtain ⟨received, hreceived, hserved⟩ := handleConnection_eq_some hs
  obtain rfl := Option.some.inj (hrequest.symm.trans hreceived)
  obtain ⟨rest, hresponse⟩ := exists_response s o
  obtain ⟨hflatten, hpieces⟩ := h.answered s hs _ hresponse
  have hunread : (Locals.asked c fd (probeRequest options (options.endpoint m) sequence
      record)).Unread := ⟨rfl, rfl, rfl⟩
  obtain ⟨hsuccess, -, hgroupCopy, hversion, hcipher⟩ :=
    success_answering hunread h.clock hpieces hflatten
  rw [hfinished]
  refine ⟨hsuccess, s, hs, by rw [hserved], hgroupCopy.trans ?_, hversion.trans ?_,
    hcipher.trans ?_⟩
  · rw [hserved, h.groupName]
    rfl
  · rw [hserved, h.version]
    rfl
  · rw [hserved, h.cipherName]
    rfl

/-- **The two ends agree.** On a connection on which nothing fails, a probe succeeds exactly if
the group that has been negotiated is that of its endpoint; then the server records exactly
if the client does, and the two reports have their common columns in common. Otherwise the
client reports a failure, and the server has not been asked anything. -/
theorem exchange_agrees {generatedRunId : Bytes} {arguments : List Bytes}
    (hopt : parseOptions generatedRunId arguments = some options)
    (hrun : IsIdentifier 120 (text options.runId))
    (hseq : 1 ≤ sequence ∧ sequence ≤ 1000000) (hhost : IsHostName (options.endpoint m).host)
    (h : Exchange options m sequence record o c e) :
    let probed := probe c options (options.endpoint m) sequence record
    (probed.code = 0 ↔ sameIgnoringCase (copyGroup c.groupName) m.group = true) ∧
    (probed.code = 0 → ∃ s, handleConnection e = some s ∧ s.recordSample = record ∧
      ∀ v ∈ probed.posted, v.success = true ∧
        v.post.toSamplePost = (s.post o).toSamplePost) ∧
    (probed.code ≠ 0 → handleConnection e = none ∧ ∀ v ∈ probed.posted, v.success = false) := by
  intro probed
  obtain ⟨hpos, hlen, hbytes⟩ := isIdentifier_text_iff.mp hrun
  have haccepted := accepted_of_parseOptions hopt
  have hcode : probed.code = 0 ↔
      (finished c options (options.endpoint m) sequence record).success = true := by
    have hreturned : probed.code =
        if (finished c options (options.endpoint m) sequence record).success then 0 else -1 := rfl
    rw [hreturned]
    cases (finished c options (options.endpoint m) sequence record).success <;> simp
  have hposted : ∀ v ∈ probed.posted, record = true ∧
      v = (finished c options (options.endpoint m) sequence record).values c options
        (options.endpoint m) (probeSampleId options (options.endpoint m) sequence) := by
    intro v hv
    obtain ⟨hrecord, hvalues⟩ := Option.ite_none_right_eq_some.mp hv
    exact ⟨hrecord, (Option.some.inj hvalues).symm⟩
  rw [hcode, ← haccepted.group m]
  rcases hgroup : sameIgnoringCase (copyGroup c.groupName) (options.endpoint m).group with _ | _
  · obtain ⟨hfailed, hnone⟩ := h.refused hgroup
    refine ⟨by simp [hfailed], fun hsuccess => ?_, fun _ => ⟨hnone, fun v hv => ?_⟩⟩
    · exact absurd (hfailed.symm.trans hsuccess) Bool.false_ne_true
    · obtain ⟨-, rfl⟩ := hposted v hv
      exact hfailed
  obtain ⟨hsuccess, s, hs, hidentified, hgroupCopy, hversion, hcipher⟩ := h.accepted hgroup
  refine ⟨by simp [hsuccess], fun _ => ⟨s, hs, ?_⟩,
    fun hne => absurd (hcode.mpr hsuccess) hne⟩
  -- the server identifies the sample by the request that has been formatted
  have hsampleLen := length_sampleIdText_le (m := m) hlen hseq.2
  have hsampleId : validIdentifier (sampleIdText options.runId (lit m.text) sequence) :=
    validIdentifier_iff_isIdentifier.mpr (isIdentifier_sampleIdText hrun hseq.2)
  have hsampleBytes := (validIdentifier_iff.mp hsampleId).2.2
  have hhostBytes : ∀ b ∈ (options.endpoint m).host, isIdentifierByte b :=
    fun b hb => (hhost.2 b hb).1
  have hsample : probeSampleId options (options.endpoint m) sequence =
      sampleIdText options.runId (lit m.text) sequence := by
    rw [probeSampleId, haccepted.mode m, snprintf_sampleIdText hlen hseq.2]
  have hsize : (requestText (sampleIdText options.runId (lit m.text) sequence) options.runId
      (options.endpoint m).host record).length < 640 :=
    length_requestText_lt hsampleLen hlen hhost.1
  rw [probeRequest, hsample, snprintf_of_lt hsize, List.take_of_length_le (by omega),
    cString_requestText hsampleBytes hbytes hhostBytes,
    identify_requestText hsampleId haccepted.runId (by omega) (by omega) hhostBytes] at hidentified
  have hrecorded : s.recordSample = record := by
    rw [hidentified]
    cases record <;> rfl
  refine ⟨hrecorded, fun v hv => ?_⟩
  obtain ⟨rfl, rfl⟩ := hposted v hv
  refine ⟨hsuccess, ?_⟩
  have hids : s.sampleId = sampleIdText options.runId (lit m.text) sequence ∧
      s.runId = options.runId := by
    rw [hidentified]
    exact ⟨rfl, rfl⟩
  simp only [ClientValues.post, Locals.values, Served.post, hsample, hids.1, hids.2, hgroupCopy,
    hversion, hcipher, haccepted.mode m, haccepted.group m, h.mode, h.group]

/-- The server of the hybrid endpoint. -/
def hybridServer : ServerOptions :=
  { ServerOptions.default with mode := lit "hybrid", group := lit "X25519MLKEM768" }

/-- The server's end of a connection with `HybridTls.answered`. -/
def hybridEnd : ServerEnv :=
  { ServerEnv.receiving 1500 (probeRequest misleading (misleading.endpoint .hybrid) 1 true) with
    groupName := some (lit "X25519MLKEM768") }

/-- The client's end, to which the answer comes in two pieces. -/
def clientEnd : ProbeEnv :=
  let reply := ((handleConnection hybridEnd).bind (·.response hybridServer)).getD []
  { answered with pieces := [reply.take 1, reply.drop 1] }

theorem exchange_hybrid :
    Exchange misleading .hybrid 1 true hybridServer clientEnd hybridEnd where
  tcpConnect := ⟨3, rfl⟩
  sslNew := rfl
  sslConnect := rfl
  sslWrite := rfl
  clock := by decide
  serverNew := rfl
  sslAccept := rfl
  groupName := rfl
  version := rfl
  cipherName := rfl
  mode := rfl
  group := rfl
  asked := by decide +kernel
  answered s hs reply hreply := by
    have hend : ((handleConnection hybridEnd).bind (·.response hybridServer)).getD [] = reply := by
      rw [hs, Option.bind_some, hreply]
      rfl
    have hlong : 2 ≤ reply.length := by
      obtain ⟨rest, hrest⟩ := exists_response s hybridServer
      obtain rfl := Option.some.inj (hrest.symm.trans hreply)
      have hlength : (lit "HTTP/1.1 200 OK").length = 15 := by decide
      rw [List.length_append, hlength]
      omega
    have hpieces : clientEnd.pieces = [reply.take 1, reply.drop 1] := by rw [clientEnd, hend]
    rw [hpieces]
    constructor
    · rw [List.flatten_cons, List.flatten_singleton, List.take_append_drop]
    simp only [List.mem_cons, List.not_mem_nil, or_false, forall_eq_or_imp, forall_eq,
      ← List.length_pos_iff, List.length_take, List.length_drop]
    omega

/-- The two reports of a sample whose run has a misleading name. -/
theorem exchange_agrees_hybrid : ∃ s v, handleConnection hybridEnd = some s ∧
    (probe clientEnd misleading (misleading.endpoint .hybrid) 1 true).posted = some v ∧
    s.recordSample = true ∧ v.post.toSamplePost = (s.post hybridServer).toSamplePost := by
  have hopt : parseOptions (lit "record-1.sample_id-run_id") [] = some misleading := by
    decide +kernel
  have hhost : IsHostName (misleading.endpoint .hybrid).host := by
    constructor <;> decide +kernel
  obtain ⟨hcode, hagrees, -⟩ := exchange_agrees hopt (by decide +kernel) ⟨le_rfl, by decide⟩
    hhost exchange_hybrid
  obtain ⟨s, hs, hrecord, hposts⟩ := hagrees (hcode.mpr (by decide +kernel))
  obtain ⟨v, hv⟩ : ∃ v,
      (probe clientEnd misleading (misleading.endpoint .hybrid) 1 true).posted = some v := ⟨_, rfl⟩
  exact ⟨s, v, hs, hv, hrecord, (hposts v hv).2⟩

end Exchange

end HybridTls

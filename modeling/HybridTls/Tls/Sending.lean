import HybridTls.Tls.Post

/-!
# Sending a request, call by call

`send_all` and the first half of `post_json`, with every call of `send` written down: from
where it sends, how many bytes it offers, and what it returns. The kernel may accept any
number of the bytes it is offered, or none (`HybridTls.Kernel`). Offsets and lengths are
of the type `size_t`.

A run of `send_all` accepts the positions of its data one after the other, up to where it
ends, and returns zero exactly if this is the end of the data
(`HybridTls.sends_sendAllLoop`). The functions that know of the calls only what they
return are what these are on that level (`HybridTls.sendAllFrom_results`,
`HybridTls.postJson_eq`).
-/

namespace HybridTls

/-! ### The kernel -/

/-- **What `send` may return**: an error, or how many of the bytes it has accepted, at the
`call`-th call. -/
structure Kernel where
  send : ℕ → UInt64 → ℤ
  send_le : ∀ call count, send call count ≤ count.toNat

/-- One call of `send`: where in the data it begins, how many bytes it offers, and what it
returns. -/
structure SendCall where
  offset : UInt64
  count : UInt64
  result : ℤ
  deriving DecidableEq, Repr

/-- The positions in the data that a call has accepted. -/
def SendCall.positions (c : SendCall) : List ℕ := List.range' c.offset.toNat c.result.toNat

/-- The bytes it has accepted. -/
def SendCall.bytes (data : Bytes) (c : SendCall) : Bytes :=
  (data.drop c.offset.toNat).take c.result.toNat

/-! ### The code -/

/-- The position behind a call that has accepted bytes; it does not overflow, since it
stays within the data. -/
theorem toNat_sent_add (kernel : Kernel) {length sent : UInt64} {call : ℕ} (h : sent < length) :
    (sent + (kernel.send call (length - sent)).toNat.toUInt64).toNat =
      sent.toNat + (kernel.send call (length - sent)).toNat ∧
    sent.toNat + (kernel.send call (length - sent)).toNat ≤ length.toNat := by
  have hle := kernel.send_le call (length - sent)
  have hlt := UInt64.lt_iff_toNat_lt.mp h
  have hmax := length.toNat_lt
  rw [UInt64.toNat_sub_of_le _ _ (UInt64.le_of_lt h)] at hle
  have hresult : (kernel.send call (length - sent)).toNat.toUInt64.toNat =
      (kernel.send call (length - sent)).toNat :=
    Nat.mod_eq_of_lt (by omega)
  rw [UInt64.toNat_add, hresult, Nat.mod_eq_of_lt (by omega)]
  exact ⟨rfl, by omega⟩

/-- The loop of `send_all`, `sent` bytes having been accepted; `call` is the number of the
next call of `send`. -/
def sendAllLoop (kernel : Kernel) (length : UInt64) (call : ℕ) (sent : UInt64) :
    ℤ × List SendCall :=
  if sent < length then
    let result := kernel.send call (length - sent)
    if result ≤ 0 then (-1, [⟨sent, length - sent, result⟩])
    else
      let rest := sendAllLoop kernel length (call + 1) (sent + result.toNat.toUInt64)
      (rest.1, ⟨sent, length - sent, result⟩ :: rest.2)
  else (0, [])
termination_by length.toNat - sent.toNat
decreasing_by
  rename_i h hresult
  have hsent := @toNat_sent_add kernel length sent call h
  have hlt := UInt64.lt_iff_toNat_lt.mp h
  show length.toNat - (sent + (kernel.send call (length - sent)).toNat.toUInt64).toNat < _
  have hpos : 0 < (kernel.send call (length - sent)).toNat := by
    change ¬ kernel.send call (length - sent) ≤ 0 at hresult
    omega
  omega

/-- **A run of the loop** from the position `sent` to the position `reached`: it has
accepted the positions between them, one after the other; every call offers all that has
not been accepted; and it returns zero if this is the end of the data. -/
structure Sends (length sent reached : ℕ) (run : ℤ × List SendCall) : Prop where
  sent_le : sent ≤ reached
  le_length : reached ≤ length
  positions : run.2.flatMap SendCall.positions = List.range' sent (reached - sent)
  offers : ∀ c ∈ run.2, 0 < c.count.toNat ∧ c.offset.toNat + c.count.toNat = length
  calls_le : run.2.length ≤ length - sent
  code : run.1 = if reached = length then 0 else -1

/-- A call that offers the rest of the data. -/
theorem offers_rest {length sent : UInt64} (h : sent < length) :
    0 < (length - sent).toNat ∧ sent.toNat + (length - sent).toNat = length.toNat := by
  have hlt := UInt64.lt_iff_toNat_lt.mp h
  rw [UInt64.toNat_sub_of_le _ _ (UInt64.le_of_lt h)]
  omega

/-- **What the loop does.** -/
theorem sends_sendAllLoop (kernel : Kernel) (length : UInt64) (call : ℕ) (sent : UInt64)
    (hsent : sent ≤ length) :
    ∃ reached, Sends length.toNat sent.toNat reached (sendAllLoop kernel length call sent) := by
  fun_induction sendAllLoop kernel length call sent with
  | case1 call sent h result hresult =>
    have hlt := UInt64.lt_iff_toNat_lt.mp h
    have hnone : result.toNat = 0 := Int.toNat_of_nonpos hresult
    refine ⟨sent.toNat, Nat.le_refl _, by omega, ?_, ?_, ?_, (if_neg (by omega)).symm⟩
    · simp [SendCall.positions, hnone]
    · simpa using offers_rest h
    · show 1 ≤ length.toNat - sent.toNat
      omega
  | case2 call sent h result hresult rest ih =>
    obtain ⟨hnext, hwithin⟩ :
        (sent + result.toNat.toUInt64).toNat = sent.toNat + result.toNat ∧
          sent.toNat + result.toNat ≤ length.toNat := toNat_sent_add kernel h
    obtain ⟨reached, hrest⟩ := ih (UInt64.le_iff_toNat_le.mpr (hnext ▸ hwithin))
    have hpos : 0 < result.toNat := by omega
    have hle := hrest.sent_le
    have hcalls : rest.2.length ≤ _ := hrest.calls_le
    rw [hnext] at hle hcalls
    refine ⟨reached, by omega, hrest.le_length, ?_, ?_, ?_, hrest.code⟩
    -- the positions of this call come before those of the others
    · rw [List.flatMap_cons, hrest.positions, hnext, SendCall.positions, List.range'_append_1]
      exact congrArg (List.range' sent.toNat) (show result.toNat + _ = _ by omega)
    · exact List.forall_mem_cons.mpr ⟨offers_rest h, hrest.offers⟩
    · rw [List.length_cons]
      omega
  | case3 call sent h =>
    have heq : sent = length := UInt64.le_antisymm hsent (UInt64.not_lt.mp h)
    refine ⟨sent.toNat, Nat.le_refl _, by rw [heq], ?_, ?_, Nat.zero_le _, ?_⟩
    · simp
    · simp
    · rw [if_pos (by rw [heq])]

/-- A kernel that always accepts something accepts everything. -/
theorem sendAllLoop_code_of_pos {kernel : Kernel}
    (hpos : ∀ call count, 0 < count → 0 < kernel.send call count) (length : UInt64) (call : ℕ)
    (sent : UInt64) : (sendAllLoop kernel length call sent).1 = 0 := by
  fun_induction sendAllLoop kernel length call sent with
  | case1 call sent h result hresult =>
    have hcount : 0 < length - sent := UInt64.lt_iff_toNat_lt.mpr (offers_rest h).1
    exact absurd hresult (not_le.mpr (hpos call _ hcount))
  | case2 call sent h result hresult rest ih => exact ih
  | case3 call sent h => rfl

/-! ### The bytes -/

/-- The elements at consecutive positions. -/
theorem filterMap_getElem?_range' {α : Type} (data : List α) (offset count : ℕ) :
    (List.range' offset count).filterMap (data[·]?) = (data.drop offset).take count := by
  induction count generalizing offset with
  | zero => simp
  | succ count ih =>
    rw [List.range'_succ]
    rcases Nat.lt_or_ge offset data.length with hlt | hge
    · rw [List.filterMap_cons_some (List.getElem?_eq_getElem hlt), ih,
        List.drop_eq_getElem_cons hlt, List.take_succ_cons]
    · rw [List.filterMap_cons_none (List.getElem?_eq_none hge), ih,
        List.drop_of_length_le (by omega), List.drop_of_length_le hge, List.take_nil,
        List.take_nil]

/-- The bytes of calls that have accepted the positions of the data from its start. -/
theorem flatMap_bytes {data : Bytes} {calls : List SendCall} {accepted : ℕ}
    (h : calls.flatMap SendCall.positions = List.range' 0 accepted) :
    calls.flatMap (SendCall.bytes data) = data.take accepted := by
  have hbytes : ∀ c : SendCall, c.bytes data = c.positions.filterMap (data[·]?) := fun c =>
    (filterMap_getElem?_range' data c.offset.toNat c.result.toNat).symm
  calc calls.flatMap (SendCall.bytes data)
      = calls.flatMap fun c => c.positions.filterMap (data[·]?) :=
        List.flatMap_congr fun c _ => hbytes c
    _ = (calls.flatMap SendCall.positions).filterMap (data[·]?) := by
        rw [List.filterMap_flatMap]
    _ = data.take accepted := by
        rw [h, filterMap_getElem?_range', List.drop_zero]

/-! ### `post_json` -/

/-- **A string in memory**: its terminating zero is the first there is, and its length is of
the type `size_t`. -/
structure CText where
  bytes : Bytes
  nonzero : 0 ∉ bytes
  length_lt : bytes.length < 2 ^ 64

/-- `strlen`. -/
def CText.strlen (s : CText) : UInt64 := s.bytes.length.toUInt64

@[simp] theorem CText.toNat_strlen (s : CText) : s.strlen.toNat = s.bytes.length :=
  Nat.mod_eq_of_lt s.length_lt

/-- What `snprintf` returns: the length of what has been formatted, if it is an `int`. -/
def snprintfLength (formatted : Bytes) : ℤ :=
  if formatted.length ≤ 2147483647 then formatted.length else -1

/-- A run of `post_json`: its result, the calls of `send` for the header and for the body,
and whether it has come to `recv`. -/
structure PostRun where
  code : ℤ
  header : List SendCall
  body : List SendCall
  received : Bool

/-- `post_json`, call by call. -/
def postJsonRun (kernel : Kernel) (tcpConnect : Except Bytes ℕ) (arrived : Option Bytes)
    (host path json : CText) : PostRun :=
  match tcpConnect with
  | .error _ => ⟨-1, [], [], false⟩
  | .ok _ =>
    let headerLength := snprintfLength (headerText host.bytes path.bytes json.bytes)
    if headerLength ≤ 0 ∨ 1024 ≤ headerLength then ⟨-1, [], [], false⟩
    else
      let header := sendAllLoop kernel headerLength.toNat.toUInt64 0 0
      if header.1 ≠ 0 then ⟨-1, header.2, [], false⟩
      else
        let body := sendAllLoop kernel json.strlen header.2.length 0
        if body.1 ≠ 0 then ⟨-1, header.2, body.2, false⟩
        else ⟨readVerdict arrived, header.2, body.2, true⟩

/-- The bytes that have been accepted, of the buffer of the header and of the body. -/
def PostRun.delivered (run : PostRun) (header body : Bytes) : Bytes :=
  run.header.flatMap (SendCall.bytes header) ++ run.body.flatMap (SendCall.bytes body)

/-- The number that is read from decimal digits. -/
def readDecimal (digits : Bytes) : ℕ := Nat.ofDigitChars 10 (digits.map char) 0

theorem readDecimal_decimal (n : ℕ) : readDecimal (decimal n) = n := by
  have hascii : ∀ c ∈ Nat.toDigits 10 n, c.toNat < 128 := fun c hc => by
    have := toNat_of_isDigit (Nat.isDigit_of_mem_toDigits (by decide) (by decide) hc)
    omega
  rw [readDecimal, decimal, map_char_map_byte hascii, Nat.ofDigitChars_ten_toDigits]

/-- **A request that has been written**: every position of the header and of the body has
been accepted once, in order; what has been delivered is the one and the other; and the
header says how long the body is. -/
structure PostRun.Exact (run : PostRun) (host path json : Bytes) : Prop where
  header : run.header.flatMap SendCall.positions = List.range (headerText host path json).length
  body : run.body.flatMap SendCall.positions = List.range json.length
  delivered : run.delivered (snprintf 1024 (headerText host path json)) json =
    headerText host path json ++ json
  contentLength : ∃ front digits back,
    headerText host path json =
        front ++ lit "\r\nContent-Length: " ++ digits ++ lit "\r\n" ++ back ∧
      (∀ b ∈ digits, isDigit b) ∧ readDecimal digits = json.length

section Post

variable {kernel : Kernel} {tcpConnect : Except Bytes ℕ} {arrived : Option Bytes}
  {host path json : CText}

/-- The length of a header that fits. -/
theorem snprintfLength_of_lt {formatted : Bytes} (h : formatted.length < 1024) :
    snprintfLength formatted = formatted.length := if_pos (by omega)

/-- **When the header is sent**: it fits its buffer. -/
theorem headerFits_iff {host path json : Bytes} :
    (snprintfLength (headerText host path json) ≤ 0 ∨
      1024 ≤ snprintfLength (headerText host path json)) ↔
      1024 ≤ (headerText host path json).length := by
  have hpos : 0 < (headerText host path json).length := by
    simp only [headerText, List.length_append]
    have : (lit "POST ").length = 5 := rfl
    omega
  unfold snprintfLength
  split <;> omega

/-- What a run of `send_all` from the start of its data is. -/
structure SendsAll (length : ℕ) (run : ℤ × List SendCall) : Prop where
  code : run.1 = 0 ∨ run.1 = -1
  offers : ∀ c ∈ run.2, 0 < c.count.toNat ∧ c.offset.toNat + c.count.toNat = length
  calls_le : run.2.length ≤ length
  positions : ∃ accepted ≤ length, run.2.flatMap SendCall.positions = List.range accepted ∧
    (∀ data : Bytes, run.2.flatMap (SendCall.bytes data) = data.take accepted) ∧
    (run.1 = 0 ↔ accepted = length)

theorem sendsAll_sendAllLoop (kernel : Kernel) (length : UInt64) (call : ℕ) :
    SendsAll length.toNat (sendAllLoop kernel length call 0) := by
  obtain ⟨reached, h⟩ := sends_sendAllLoop kernel length call 0 UInt64.zero_le
  have hpositions : (sendAllLoop kernel length call 0).2.flatMap SendCall.positions =
      List.range' 0 reached := h.positions
  have hcode := h.code
  refine ⟨?_, h.offers, h.calls_le, reached, h.le_length, ?_, fun data => ?_, ?_⟩
  · rw [hcode]
    split
    · exact Or.inl rfl
    · exact Or.inr rfl
  · rw [hpositions, List.range_eq_range']
  · exact flatMap_bytes hpositions
  · rw [hcode]
    constructor
    · intro hzero
      by_contra hne
      rw [if_neg hne] at hzero
      exact absurd hzero (by decide)
    · exact fun heq => if_pos heq

/-- A run that returns zero has accepted everything. -/
theorem SendsAll.of_code_eq_zero {length : ℕ} {run : ℤ × List SendCall}
    (h : SendsAll length run) (hcode : run.1 = 0) :
    run.2.flatMap SendCall.positions = List.range length ∧
      ∀ data : Bytes, data.length = length → run.2.flatMap (SendCall.bytes data) = data := by
  obtain ⟨accepted, -, hpositions, hbytes, hiff⟩ := h.positions
  obtain rfl := hiff.mp hcode
  exact ⟨hpositions, fun data hdata => (hbytes data).trans (List.take_of_length_le hdata.le)⟩

/-- A header that does not fit is not sent at all. -/
theorem postJsonRun_of_le (h : 1024 ≤ (headerText host.bytes path.bytes json.bytes).length) :
    postJsonRun kernel tcpConnect arrived host path json = ⟨-1, [], [], false⟩ := by
  unfold postJsonRun
  cases tcpConnect with
  | error _ => rfl
  | ok _ => exact if_pos (headerFits_iff.mpr h)

/-- One that fits is sent as it is, and then the body. -/
theorem postJsonRun_of_lt {socketFd : ℕ}
    (h : (headerText host.bytes path.bytes json.bytes).length < 1024) :
    postJsonRun kernel (.ok socketFd) arrived host path json =
      let header := sendAllLoop kernel
        (headerText host.bytes path.bytes json.bytes).length.toUInt64 0 0
      let body := sendAllLoop kernel json.strlen header.2.length 0
      if header.1 ≠ 0 then ⟨-1, header.2, [], false⟩
      else if body.1 ≠ 0 then ⟨-1, header.2, body.2, false⟩
      else ⟨readVerdict arrived, header.2, body.2, true⟩ := by
  unfold postJsonRun
  simp only
  rw [if_neg (mt headerFits_iff.mp (Nat.not_le.mpr h)), snprintfLength_of_lt h, Int.toNat_natCast]

/-- The header says how long the body is. -/
theorem contentLength_headerText (host path json : Bytes) :
    ∃ front digits back,
      headerText host path json =
          front ++ lit "\r\nContent-Length: " ++ digits ++ lit "\r\n" ++ back ∧
        (∀ b ∈ digits, isDigit b) ∧ readDecimal digits = json.length := by
  refine ⟨lit "POST " ++ path ++ lit " HTTP/1.1\r\nHost: " ++ host ++
    lit "\r\nContent-Type: application/json", decimal json.length,
    lit "Connection: close\r\n\r\n", ?_, fun b hb => ?_, readDecimal_decimal _⟩
  · have hlit : lit "\r\nContent-Type: application/json\r\nContent-Length: " =
        lit "\r\nContent-Type: application/json" ++ lit "\r\nContent-Length: " := rfl
    have hend : lit "\r\nConnection: close\r\n\r\n" =
        lit "\r\n" ++ lit "Connection: close\r\n\r\n" := rfl
    rw [headerText, hlit, hend]
    simp only [List.append_assoc]
  · obtain ⟨hlo, hhi⟩ := digit_of_mem_decimal hb
    simp only [isDigit, Bool.and_eq_true, decide_eq_true_eq, UInt8.le_iff_toNat_le]
    exact ⟨hlo, hhi⟩

/-- The length of a header that fits, as a `size_t`. -/
theorem toNat_headerLength {host path json : Bytes}
    (h : (headerText host path json).length < 1024) :
    (headerText host path json).length.toUInt64.toNat = (headerText host path json).length :=
  Nat.mod_eq_of_lt (by omega)

/-- **What has gone before `recv`**: the header fits, and both runs of `send_all` have
returned zero. -/
theorem postJsonRun_received
    (hreceived : (postJsonRun kernel tcpConnect arrived host path json).received = true) :
    (headerText host.bytes path.bytes json.bytes).length < 1024 ∧
      ∃ header body : ℤ × List SendCall,
        SendsAll (headerText host.bytes path.bytes json.bytes).length header ∧ header.1 = 0 ∧
        SendsAll json.bytes.length body ∧ body.1 = 0 ∧
        postJsonRun kernel tcpConnect arrived host path json =
          ⟨readVerdict arrived, header.2, body.2, true⟩ := by
  rcases Nat.lt_or_ge (headerText host.bytes path.bytes json.bytes).length 1024 with hlt | hge
  swap
  · rw [postJsonRun_of_le hge] at hreceived
    cases hreceived
  refine ⟨hlt, ?_⟩
  cases tcpConnect with
  | error _ => cases hreceived
  | ok socketFd =>
    rw [postJsonRun_of_lt hlt] at hreceived ⊢
    simp only at hreceived ⊢
    split at hreceived
    next => cases hreceived
    next hheader =>
      split at hreceived
      next => cases hreceived
      next hbody =>
        have hheaderAll := sendsAll_sendAllLoop kernel
          (headerText host.bytes path.bytes json.bytes).length.toUInt64 0
        have hbodyAll := sendsAll_sendAllLoop kernel json.strlen
        rw [toNat_headerLength hlt] at hheaderAll
        rw [json.toNat_strlen] at hbodyAll
        rw [if_neg hheader, if_neg hbody]
        exact ⟨_, _, hheaderAll, not_not.mp hheader, hbodyAll _, not_not.mp hbody, rfl⟩

/-- **The request that has been written when `post_json` comes to `recv`.** -/
theorem exact_postJsonRun
    (hreceived : (postJsonRun kernel tcpConnect arrived host path json).received = true) :
    (postJsonRun kernel tcpConnect arrived host path json).Exact host.bytes path.bytes
      json.bytes := by
  obtain ⟨hlt, header, body, hheader, hheader0, hbody, hbody0, hrun⟩ :=
    postJsonRun_received hreceived
  obtain ⟨hhpositions, hhbytes⟩ := hheader.of_code_eq_zero hheader0
  obtain ⟨hbpositions, hbbytes⟩ := hbody.of_code_eq_zero hbody0
  rw [hrun]
  refine ⟨hhpositions, hbpositions, ?_, contentLength_headerText _ _ _⟩
  rw [PostRun.delivered, snprintf_of_lt hlt, hhbytes _ rfl, hbbytes _ rfl]

end Post

/-! ### The functions that know the results only -/

section Results

variable {kernel : Kernel}

/-- **The loop that is given the results of the calls** does what this loop does. -/
theorem sendAllFrom_results {data : Bytes} (length : UInt64) (hlength : length.toNat = data.length)
    (call : ℕ) (sent : UInt64) (hsent : sent ≤ length) (more : List ℤ) :
    sendAllFrom data sent.toNat ((sendAllLoop kernel length call sent).2.map (·.result) ++ more) =
      ⟨(sendAllLoop kernel length call sent).1 = 0,
        (sendAllLoop kernel length call sent).2.flatMap (SendCall.bytes data), more⟩ := by
  fun_induction sendAllLoop kernel length call sent with
  | case1 call sent h result hresult =>
    have hlt := UInt64.lt_iff_toNat_lt.mp h
    rw [List.map_cons, List.cons_append, sendAllFrom, if_pos (hlength ▸ hlt), if_pos hresult]
    simp [SendCall.bytes, Int.toNat_of_nonpos hresult]
  | case2 call sent h result hresult rest ih =>
    obtain ⟨hnext, hwithin⟩ :
        (sent + result.toNat.toUInt64).toNat = sent.toNat + result.toNat ∧
          sent.toNat + result.toNat ≤ length.toNat := toNat_sent_add kernel h
    have hlt := UInt64.lt_iff_toNat_lt.mp h
    have hrest := ih (UInt64.le_iff_toNat_le.mpr (hnext ▸ hwithin))
    rw [hnext] at hrest
    rw [List.map_cons, List.cons_append, sendAllFrom, if_pos (hlength ▸ hlt), if_neg hresult]
    simp only [rest, hrest]
    rfl
  | case3 call sent h =>
    have hge : ¬ sent.toNat < data.length := fun hlt =>
      h (UInt64.lt_iff_toNat_lt.mpr (hlength ▸ hlt))
    cases more with
    | nil => simpa [sendAllFrom] using hge
    | cons result more => simp [sendAllFrom, hge]

/-- The same of `send_all`. -/
theorem sendAll_results (kernel : Kernel) {data : Bytes} (length : UInt64)
    (hlength : length.toNat = data.length) (call : ℕ) (more : List ℤ) :
    sendAll data ((sendAllLoop kernel length call 0).2.map (·.result) ++ more) =
      ⟨(sendAllLoop kernel length call 0).1 = 0,
        (sendAllLoop kernel length call 0).2.flatMap (SendCall.bytes data), more⟩ :=
  sendAllFrom_results length hlength call 0 UInt64.zero_le more

/-- **`post_json`, given the results of the calls of `send`**, does what it does call by
call. -/
theorem postJson_eq (tcpConnect : Except Bytes ℕ) (arrived : Option Bytes)
    (host path json : CText) :
    let run := postJsonRun kernel tcpConnect arrived host path json
    postJson ⟨tcpConnect, (run.header ++ run.body).map (·.result), arrived⟩ host.bytes
        path.bytes json.bytes =
      ⟨run.code,
        run.delivered (snprintf 1024 (headerText host.bytes path.bytes json.bytes)) json.bytes,
        tcpConnect.toOption.toList⟩ := by
  cases tcpConnect with
  | error _ => rfl
  | ok socketFd =>
    rcases Nat.lt_or_ge (headerText host.bytes path.bytes json.bytes).length 1024 with hlt | hge
    swap
    · rw [postJsonRun_of_le hge]
      simp only [postJson, writeRequest, if_pos hge]
      rfl
    have hheader := sendAll_results kernel
      (headerText host.bytes path.bytes json.bytes).length.toUInt64 (toNat_headerLength hlt) 0
    have hbody := sendAll_results kernel json.strlen json.toNat_strlen
    rw [postJsonRun_of_lt hlt, snprintf_of_lt hlt]
    dsimp only
    generalize sendAllLoop kernel (headerText host.bytes path.bytes json.bytes).length.toUInt64
      0 0 = header at hheader ⊢
    specialize hbody header.2.length
    generalize sendAllLoop kernel json.strlen header.2.length 0 = body at hbody ⊢
    simp only [postJson, writeRequest, if_neg (Nat.not_le.mpr hlt)]
    by_cases hheader0 : header.1 = 0
    · rw [if_neg (not_not.mpr hheader0)]
      -- the body is sent with the results that are left
      have hresults := hbody []
      rw [List.append_nil] at hresults
      by_cases hbody0 : body.1 = 0
      · rw [if_neg (not_not.mpr hbody0)]
        simp only [List.map_append, hheader, hheader0, hresults, hbody0]
        rfl
      · rw [if_pos hbody0]
        simp only [List.map_append, hheader, hheader0, hresults, hbody0]
        rfl
    · rw [if_pos hheader0]
      simp only [List.map_append, hheader, hheader0]
      simp [PostRun.delivered, Except.toOption]

end Results

/-- **The request is exact, however the kernel accepts it**: `send_all` offers what has not
been accepted and nothing else, accepts an initial part of its data, each position once and
in order, and returns zero exactly if this is all of it; when `post_json` comes to `recv`,
it has delivered the header and the body; and a header that does not fit its buffer is not
sent. -/
theorem postJson_exact (kernel : Kernel) :
    (∀ (length : UInt64) (call : ℕ),
      SendsAll length.toNat (sendAllLoop kernel length call 0)) ∧
    ∀ (tcpConnect : Except Bytes ℕ) (arrived : Option Bytes) (host path json : CText),
      let run := postJsonRun kernel tcpConnect arrived host path json
      (run.received = true → run.Exact host.bytes path.bytes json.bytes) ∧
      (1024 ≤ (headerText host.bytes path.bytes json.bytes).length →
        run.header = [] ∧ run.body = [] ∧ run.received = false ∧ run.code = -1) := by
  refine ⟨fun length call => sendsAll_sendAllLoop kernel length call,
    fun tcpConnect arrived host path json => ⟨exact_postJsonRun, fun hlong => ?_⟩⟩
  rw [postJsonRun_of_le hlong]
  exact ⟨rfl, rfl, rfl, rfl⟩

/-- A kernel that accepts three bytes at a time. -/
def tricklingKernel : Kernel where
  send _ count := min 3 count.toNat
  send_le _ _ := min_le_right _ _

/-- Over it, a message is delivered as it is. -/
theorem postJson_exact_trickling :
    let host : CText := ⟨lit "dashboard", by decide, by decide⟩
    let path : CText := ⟨lit "/api/measurements/client", by decide +kernel, by decide⟩
    let json : CText := ⟨lit "\x7b\"a\":1\x7d", by decide, by decide⟩
    let run := postJsonRun tricklingKernel (.ok 3) none host path json
    run.received = true ∧ run.body.flatMap SendCall.positions = [0, 1, 2, 3, 4, 5, 6] ∧
      run.delivered (headerText host.bytes path.bytes json.bytes) json.bytes =
        headerText host.bytes path.bytes json.bytes ++ json.bytes := by
  intro host path json run
  have hpos : ∀ call count, 0 < count → 0 < tricklingKernel.send call count :=
    fun call count hcount => lt_min (by decide) (by exact_mod_cast UInt64.lt_iff_toNat_lt.mp hcount)
  have hlt : (headerText host.bytes path.bytes json.bytes).length < 1024 := by decide +kernel
  have hreceived : run.received = true := by
    change (postJsonRun tricklingKernel (.ok 3) none host path json).received = true
    rw [postJsonRun_of_lt hlt]
    simp only [sendAllLoop_code_of_pos hpos, ne_eq, not_true_eq_false, if_false]
  have hexact := ((postJson_exact tricklingKernel).2 (.ok 3) none host path json).1 hreceived
  have hdelivered := hexact.delivered
  rw [snprintf_of_lt hlt] at hdelivered
  exact ⟨hreceived, hexact.body, hdelivered⟩

end HybridTls

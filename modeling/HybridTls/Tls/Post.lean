import HybridTls.Tls.Probe

/-!
# Posting to the dashboard

`post_json`: connect, write a header and a body, and look at what the dashboard
answers.

The whole answer is a stream of bytes that arrives in segments, and `post_json`
looks at as much of the first one as fits its buffer
(`HybridTls.postJson`). It looks for a text, ` 200 ` or ` 201 `, where the status
line has its code between two blanks; so it can miss the code, when the first
segment ends before the second blank, and it can take something else for it, when
the text occurs further on. These two are all that can go wrong
(`HybridTls.postJson_verdict_iff`).
-/

namespace HybridTls

open Search

/-! ### Writing -/

/-- What `send_all` returns, the bytes that were accepted, and the results of `send`
that are left. -/
structure Sending where
  ok : Bool
  accepted : Bytes
  results : List ℤ
  deriving DecidableEq, Repr

/-- The loop of `send_all`, `sent` bytes having been accepted; `results` are what the
calls of `send` return, and a call behind the last one fails. -/
def sendAllFrom (data : Bytes) (sent : ℕ) : List ℤ → Sending
  | [] => ⟨data.length ≤ sent, [], []⟩
  | result :: results =>
    if sent < data.length then
      if result ≤ 0 then ⟨false, [], results⟩
      else
        let s := sendAllFrom data (sent + result.toNat) results
        { s with accepted := (data.drop sent).take result.toNat ++ s.accepted }
    else ⟨true, [], result :: results⟩

/-- `send_all`. -/
def sendAll (data : Bytes) (results : List ℤ) : Sending := sendAllFrom data 0 results

/-- The header of a request, before it is formatted into its buffer. -/
def headerText (host path json : Bytes) : Bytes :=
  lit "POST " ++ path ++ lit " HTTP/1.1\r\nHost: " ++ host ++
    lit "\r\nContent-Type: application/json\r\nContent-Length: " ++ decimal json.length ++
    lit "\r\nConnection: close\r\n\r\n"

/-- Write the request: the header if it fits its buffer, and then the body. -/
def writeRequest (host path json : Bytes) (results : List ℤ) : Sending :=
  let header := headerText host path json
  if 1024 ≤ header.length then ⟨false, [], results⟩
  else
    let h := sendAll header results
    if !h.ok then h
    else
      let b := sendAll json h.results
      { b with accepted := h.accepted ++ b.accepted }

/-! ### The answer -/

/-- **What a request meets.** -/
structure PostEnv where
  /-- `tcp_connect_host`: a socket, or what it writes into the error buffer. -/
  tcpConnect : Except Bytes ℕ
  /-- What the calls of `send` return, one after the other. -/
  sends : List ℤ
  /-- What has arrived when `recv` is called: nothing when the connection has been
  closed, and none when `recv` fails. -/
  arrived : Option Bytes

/-- The result of `post_json`, what it has sent, and the sockets it has closed. -/
structure PostResult where
  code : ℤ
  sent : Bytes
  closed : List ℕ
  deriving DecidableEq, Repr

/-- The end of `post_json`, from `recv` on. -/
def readVerdict (arrived : Option Bytes) : ℤ :=
  match arrived with
  | none => -1
  | some segment =>
    let received := segment.take 255
    if received = [] then -1
    else
      -- the search ends at the first zero, received or terminating
      let response := cString received
      if (strstr (lit " 200 ") response).isNone && (strstr (lit " 201 ") response).isNone then -1
      else 0

/-- `post_json`. -/
def postJson (env : PostEnv) (host path json : Bytes) : PostResult :=
  match env.tcpConnect with
  | .error _ => ⟨-1, [], []⟩
  | .ok socketFd =>
    let w := writeRequest host path json env.sends
    if !w.ok then ⟨-1, w.accepted, [socketFd]⟩
    else ⟨readVerdict env.arrived, w.accepted, [socketFd]⟩

/-- An answer: the status line, and whatever comes behind it. -/
def answerText (status reason rest : Bytes) : Bytes :=
  lit "HTTP/1.1 " ++ status ++ lit " " ++ reason ++ lit "\r\n" ++ rest

/-- The status codes that mean that the dashboard has done it. -/
def IsSuccess (status : Bytes) : Prop := status = lit "200" ∨ status = lit "201"

instance : DecidablePred IsSuccess := fun status =>
  inferInstanceAs (Decidable (status = lit "200" ∨ status = lit "201"))

/-- **The first segment tells what the status code is**: of a success, it has the
status line up to the blank behind the code; of anything else, neither text
occurs in what `post_json` sees of it. -/
def TellsStatus (status segment : Bytes) : Prop :=
  if IsSuccess status then 13 ≤ segment.length
  else ¬ lit " 200 " <:+: cString (segment.take 255) ∧ ¬ lit " 201 " <:+: cString (segment.take 255)

/-! ### What is found in the answer -/

section Verdict

variable {status reason rest segment : Bytes}

/-- Of what has arrived, the texts are searched for in what fits the buffer. -/
theorem readVerdict_eq_zero_iff (hne : segment ≠ []) :
    readVerdict (some segment) = 0 ↔
      lit " 200 " <:+: cString (segment.take 255) ∨
        lit " 201 " <:+: cString (segment.take 255) := by
  have hreceived : segment.take 255 ≠ [] := by simp [hne]
  simp only [readVerdict, if_neg hreceived, ← isSome_strstr_iff]
  cases strstr (lit " 200 ") (cString (segment.take 255)) <;>
    cases strstr (lit " 201 ") (cString (segment.take 255)) <;> simp

theorem readVerdict_ne_zero (h : readVerdict (some segment) ≠ 0) :
    readVerdict (some segment) = -1 := by
  simp only [readVerdict] at h ⊢
  split
  · rfl
  · split
    · rfl
    next hempty hfound => simp [hempty, hfound] at h

theorem append_take {a b : Bytes} {n : ℕ} (h : a.length ≤ n) :
    (a ++ b).take n = a ++ b.take (n - a.length) := by
  rw [List.take_append, List.take_of_length_le h]

/-- The status line up to the blank behind a code that means success. -/
def successLine (status : Bytes) : Bytes := lit "HTTP/1.1 " ++ status ++ lit " "

theorem length_successLine (h : IsSuccess status) : (successLine status).length = 13 := by
  rcases h with rfl | rfl <;> decide

theorem successLine_isPrefix : successLine status <+: answerText status reason rest := by
  simp [successLine, answerText]

/-- The code of a success is found when it has arrived with the blank behind it. -/
theorem infix_successLine (h : IsSuccess status) :
    lit " 200 " <:+: successLine status ∨ lit " 201 " <:+: successLine status := by
  rcases h with rfl | rfl
  · exact Or.inl ⟨lit "HTTP/1.1", [], by decide⟩
  · exact Or.inr ⟨lit "HTTP/1.1", [], by decide⟩

/-- Before that blank neither text occurs. -/
theorem not_infix_take_successLine (h : IsSuccess status) :
    ¬ lit " 200 " <:+: (successLine status).take 12 ∧
      ¬ lit " 201 " <:+: (successLine status).take 12 := by
  simp only [← isSome_strstr_iff]
  rcases h with rfl | rfl <;> decide +kernel

/-- **A success is recognised when its code has arrived**, with the blank behind
it. -/
theorem readVerdict_success_iff (h : IsSuccess status) (hne : segment ≠ [])
    (hsegment : segment <+: answerText status reason rest) :
    readVerdict (some segment) = 0 ↔ 13 ≤ segment.length := by
  have hlen := length_successLine h
  rw [readVerdict_eq_zero_iff hne]
  constructor
  · intro hfound
    by_contra hshort
    -- all that has arrived is part of the line, without its last blank
    have hpre : segment <+: (successLine status).take 12 := by
      rw [List.prefix_take_iff]
      exact ⟨List.prefix_of_prefix_length_le hsegment successLine_isPrefix (by omega), by omega⟩
    have hsub : cString (segment.take 255) <:+: (successLine status).take 12 :=
      (((List.takeWhile_prefix _).trans (List.take_prefix 255 segment)).trans hpre).isInfix
    obtain ⟨h200, h201⟩ := not_infix_take_successLine h
    rcases hfound with hfound | hfound
    · exact h200 (hfound.trans hsub)
    · exact h201 (hfound.trans hsub)
  · intro hlong
    have hline : successLine status <+: answerText status reason rest := successLine_isPrefix
    obtain ⟨more, rfl⟩ := List.prefix_of_prefix_length_le hline hsegment (by omega)
    have hbytes : ∀ b ∈ successLine status, (b ≠ 0 : Bool) := by
      rcases h with rfl | rfl <;> exact List.all_eq_true.mp (by decide)
    have hline : successLine status <:+: cString ((successLine status ++ more).take 255) := by
      rw [append_take (by omega), cString, List.takeWhile_append_of_pos (by simpa using hbytes)]
      exact (List.prefix_append _ _).isInfix
    exact (infix_successLine h).imp (·.trans hline) (·.trans hline)

end Verdict

/-- **When `post_json` reports what the dashboard answered.** The request has been
written, and the answer arrives in segments: the result is that of the status
code, exactly when the first segment tells what the status code is. -/
theorem postJson_verdict_iff {env : PostEnv} {socketFd : ℕ} {host path json : Bytes}
    {status reason rest : Bytes} {segments : List Bytes}
    (hconnect : env.tcpConnect = .ok socketFd)
    (hwritten : (writeRequest host path json env.sends).ok)
    (hsegments : segments.flatten = answerText status reason rest)
    (hne : ∀ s ∈ segments, s ≠ []) (harrived : env.arrived = segments.head?) :
    (postJson env host path json).code = (if IsSuccess status then 0 else -1) ↔
      ∀ s ∈ segments.head?, TellsStatus status s := by
  obtain ⟨segment, more, rfl⟩ : ∃ segment more, segments = segment :: more := by
    cases segments with
    | nil => simp [answerText, lit] at hsegments
    | cons segment more => exact ⟨segment, more, rfl⟩
  have hne' : segment ≠ [] := hne segment List.mem_cons_self
  have hprefix : segment <+: answerText status reason rest := ⟨more.flatten, hsegments⟩
  have hcode : (postJson env host path json).code = readVerdict (some segment) := by
    simp [postJson, hconnect, hwritten, harrived]
  rw [hcode]
  simp only [List.head?_cons, Option.mem_some_iff, forall_eq', TellsStatus]
  by_cases h : IsSuccess status
  · rw [if_pos h, if_pos h]
    exact readVerdict_success_iff h hne' hprefix
  · rw [if_neg h, if_neg h, ← not_or, ← readVerdict_eq_zero_iff hne']
    constructor
    · intro hverdict hzero
      omega
    · exact readVerdict_ne_zero

/-- A request that is written in one piece, and a first segment of the answer. -/
def PostEnv.delivering (segment : Bytes) : PostEnv where
  tcpConnect := .ok 3
  sends := [1024, 1024]
  arrived := some segment

/-- An answer of 201 that arrives whole. -/
theorem postJson_verdict_created :
    (postJson (PostEnv.delivering (answerText (lit "201") (lit "Created") [])) (lit "dashboard")
      (lit "/api/runs") (lit "\x7b\x7d")).code = 0 := by
  have hsegments : [answerText (lit "201") (lit "Created") []].flatten =
      answerText (lit "201") (lit "Created") [] := by
    simp
  have htells : ∀ s ∈ [answerText (lit "201") (lit "Created") []].head?,
      TellsStatus (lit "201") s := by
    rintro _ ⟨⟩
    rw [TellsStatus, if_pos (show IsSuccess (lit "201") from Or.inr rfl)]
    decide +kernel
  exact (postJson_verdict_iff rfl (by decide +kernel) hsegments (by decide +kernel) rfl).mpr htells

/-- An answer of 201 that arrives in two segments, the first of which ends behind
the code, is taken for a refusal; a refusal that says ` 200 ` further on is taken
for success. -/
theorem not_postJson_verdict :
    (writeRequest (lit "dashboard") (lit "/api/runs") (lit "\x7b\x7d") [1024, 1024]).ok ∧
      ([lit "HTTP/1.1 201", lit " Created\r\n\r\n"].flatten =
          answerText (lit "201") (lit "Created") (lit "\r\n") ∧
        (postJson (PostEnv.delivering (lit "HTTP/1.1 201")) (lit "dashboard") (lit "/api/runs")
          (lit "\x7b\x7d")).code = -1) ∧
      (postJson (PostEnv.delivering (answerText (lit "422") (lit "Unprocessable Entity")
        (lit "\r\nat most 200 characters"))) (lit "dashboard") (lit "/api/runs")
          (lit "\x7b\x7d")).code = 0 := by
  decide +kernel

end HybridTls

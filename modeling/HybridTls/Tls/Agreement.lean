import HybridTls.Tls.SampleId
import HybridTls.Tls.Server
import Mathlib.Data.List.TakeWhile

/-!
# Which sample a connection is

The client formats a request, and the server finds out from it which sample the
connection belongs to.

The server looks for the names of the parameters with `strstr`, anywhere in the
request, so that a name could be found inside an identifier or a header. Each
name is looked up with the `=` behind it, however, and the request of a probe has
that character in three places only – identifiers and host names do not contain
it. They cut the request into four segments (`HybridTls.requestText_eq`):

```
GET /probe?sample_id = RUN-MODE-SEQUENCE&run_id = RUN&record = 1 HTTP/1.1 …
```

A name can only be found where a segment ends in it, and the ends of the segments
are literals. So every lookup finds its own parameter, and the server identifies
the sample by what the client put in (`HybridTls.identify_requestText`). The
request fits all buffers it passes through (`HybridTls.length_requestText_lt`).
-/

namespace HybridTls

open Search

/-! ### Requests -/

/-- The name of a host: letters, digits, dots and hyphens. -/
def IsHostName (host : Bytes) : Prop :=
  host.length ≤ 253 ∧ ∀ b ∈ host, isIdentifierByte b ∧ b ≠ 95

/-- A byte of an identifier neither ends a string nor separates a name from a
value. -/
theorem not_separator : ∀ b : UInt8, isIdentifierByte b → b ≠ 0 ∧ b ≠ 61 :=
  forall_byte (by decide +kernel)

/-- What is behind the last `=` of a request. -/
def requestTail (host : Bytes) (record : Bool) : Bytes :=
  (if record then 49 else 48) :: (lit " HTTP/1.1\r\nHost: " ++ host ++
    lit "\r\nConnection: close\r\n\r\n")

/-- **The segments of a request.** -/
theorem requestText_eq (sampleId runId host : Bytes) (record : Bool) :
    requestText sampleId runId host record =
      lit "GET /probe?" ++ lit "sample_id" ++ 61 :: (sampleId ++ lit "&" ++ lit "run_id" ++
        61 :: (runId ++ lit "&" ++ lit "record" ++ 61 :: requestTail host record)) := by
  have hfirst : lit "GET /probe?sample_id=" = lit "GET /probe?" ++ lit "sample_id" ++ [61] := by
    decide
  have hsecond : lit "&run_id=" = lit "&" ++ lit "run_id" ++ [61] := by decide
  have hthird : lit "&record=" = lit "&" ++ lit "record" ++ [61] := by decide
  have hrecord : lit (if record then "1" else "0") = [if record then 49 else 48] := by
    cases record <;> decide
  simp [requestText, requestTail, hfirst, hsecond, hthird, hrecord]

section Request

variable {sampleId runId host : Bytes} {record : Bool}

theorem not_mem_segment {value suffix : Bytes} (hvalue : ∀ b ∈ value, isIdentifierByte b)
    (hsuffix : 61 ∉ suffix) : 61 ∉ value ++ suffix := by
  rw [List.mem_append]
  rintro (h | h)
  · exact (not_separator 61 (hvalue 61 h)).2 rfl
  · exact hsuffix h

theorem not_mem_requestTail (hhost : ∀ b ∈ host, isIdentifierByte b) :
    61 ∉ requestTail host record := by
  have hdigit : 61 ∉ (if record then 49 else 48) :: lit " HTTP/1.1\r\nHost: " := by
    cases record <;> decide
  rw [requestTail, List.append_assoc, ← List.cons_append, List.mem_append]
  rintro (h | h)
  · exact hdigit h
  · exact not_mem_segment hhost (by decide) h

theorem isPrefix_requestTail : [49] <+: requestTail host record ↔ record = true := by
  cases record <;> simp [requestTail, List.cons_prefix_cons]

/-- The first parameter is found in the first segment. -/
theorem strstr_sample_id (sampleId runId host : Bytes) (record : Bool) :
    strstr (lit "sample_id" ++ [61]) (requestText sampleId runId host record) =
      some (lit "sample_id" ++ 61 :: (sampleId ++ lit "&" ++ lit "run_id" ++
        61 :: (runId ++ lit "&" ++ lit "record" ++ 61 :: requestTail host record))) := by
  rw [requestText_eq]
  exact strstr_hit (by decide) (by decide) List.nil_prefix

/-- The second parameter is found in the second segment: the first does not end
in its name. -/
theorem strstr_run_id (runId host : Bytes) (record : Bool)
    (hsample : ∀ b ∈ sampleId, isIdentifierByte b) :
    strstr (lit "run_id" ++ [61]) (requestText sampleId runId host record) =
      some (lit "run_id" ++ 61 :: (runId ++ lit "&" ++ lit "record" ++
        61 :: requestTail host record)) := by
  have hfirst : ¬ lit "run_id" <:+ lit "GET /probe?" ++ lit "sample_id" := by decide
  rw [requestText_eq, strstr_skip (by decide) (by decide) fun h => hfirst h.1]
  exact strstr_hit (by decide) (not_mem_segment hsample (by decide)) List.nil_prefix

/-- Whether to record is said in the third segment, and found there if it is so:
neither of the others ends in the parameter's name. -/
theorem isNone_strstr_record (hsample : ∀ b ∈ sampleId, isIdentifierByte b)
    (hrun : ∀ b ∈ runId, isIdentifierByte b) (hhost : ∀ b ∈ host, isIdentifierByte b) :
    (strstr (lit "record=1") (requestText sampleId runId host record)).isNone = !record := by
  have hneedle : lit "record=1" = lit "record" ++ 61 :: [49] := by decide
  have hfirst : ¬ lit "record" <:+ lit "GET /probe?" ++ lit "sample_id" := by decide
  have hsecond : ¬ lit "record" <:+ sampleId ++ (lit "&" ++ lit "run_id") :=
    not_isSuffix_append (by decide) (by decide)
  have hrecord : 61 ∉ lit "record" := by decide
  have hand : 61 ∉ lit "&" := by decide
  -- past the first two separators, whatever the identifiers are
  rw [requestText_eq, hneedle, strstr_skip hrecord (by decide) fun h => hfirst h.1,
    List.append_assoc sampleId, strstr_skip hrecord (not_mem_segment hsample (by decide))
      fun h => hsecond h.1]
  cases record with
  | true =>
    rw [strstr_hit hrecord (not_mem_segment hrun hand) (isPrefix_requestTail.mpr rfl)]
    rfl
  | false =>
    rw [List.append_assoc runId, strstr_skip hrecord (not_mem_segment hrun (by decide)) fun h =>
        Bool.false_ne_true (isPrefix_requestTail.mp h.2),
      strstr_eq_none_of_not_mem (not_mem_requestTail hhost)]
    rfl

/-- **The server identifies the sample by what the client put in.** -/
theorem identify_requestText (hsample : validIdentifier sampleId) (hrun : validIdentifier runId)
    (hsampleLen : sampleId.length < 180) (hrunLen : runId.length < 140)
    (hhost : ∀ b ∈ host, isIdentifierByte b) :
    identify (requestText sampleId runId host record) =
      if record then ⟨true, sampleId, runId⟩ else ⟨false, [], []⟩ := by
  have hsampleBytes := (validIdentifier_iff.mp hsample).2.2
  have hrunBytes := (validIdentifier_iff.mp hrun).2.2
  have hand : isValueByte 38 = false := by decide
  have hlit : lit "&" = [38] := by decide
  have hfirst := strstr_sample_id sampleId runId host record
  have hsecond := strstr_run_id runId host record hsampleBytes
  simp only [hlit, List.append_assoc, List.singleton_append] at hfirst hsecond
  rw [identify, isNone_strstr_record hsampleBytes hrunBytes hhost]
  cases record with
  | false => rfl
  | true =>
    have h₁ := extractQueryValue_of_strstr [] (by decide) hfirst hsample hsampleLen hand
    have h₂ := extractQueryValue_of_strstr [] (by decide) hsecond hrun hrunLen hand
    simp [h₁, h₂]

/-! ### Buffers -/

theorem length_requestText_lt (hsample : sampleId.length ≤ 140) (hrun : runId.length ≤ 120)
    (hhost : host.length ≤ 253) : (requestText sampleId runId host record).length < 640 := by
  have h₁ : (lit "GET /probe?sample_id=").length = 21 := by decide
  have h₂ : (lit "&run_id=").length = 8 := by decide
  have h₃ : (lit "&record=").length = 8 := by decide
  have h₄ : (lit (if record then "1" else "0")).length = 1 := by cases record <;> decide
  have h₅ : (lit " HTTP/1.1\r\nHost: ").length = 17 := by decide
  have h₆ : (lit "\r\nConnection: close\r\n\r\n").length = 23 := by decide
  simp only [requestText, List.length_append, h₁, h₂, h₃, h₄, h₅, h₆]
  omega

/-- A request ends nothing early. -/
theorem cString_requestText (hsample : ∀ b ∈ sampleId, isIdentifierByte b)
    (hrun : ∀ b ∈ runId, isIdentifierByte b) (hhost : ∀ b ∈ host, isIdentifierByte b) :
    cString (requestText sampleId runId host record) =
      requestText sampleId runId host record := by
  have hzero : ∀ v : Bytes, (∀ b ∈ v, isIdentifierByte b) → ∀ b ∈ v, b ≠ 0 :=
    fun v hv b hb => (not_separator b (hv b hb)).1
  have hdigit : ∀ b ∈ lit (if record then "1" else "0"), b ≠ 0 := by
    cases record <;> decide +kernel
  rw [cString, List.takeWhile_eq_self_iff]
  simp only [decide_eq_true_eq, requestText, List.forall_mem_append]
  refine ⟨⟨⟨⟨⟨⟨⟨⟨?_, hzero _ hsample⟩, ?_⟩, hzero _ hrun⟩, ?_⟩, hdigit⟩, ?_⟩, hzero _ hhost⟩, ?_⟩
  all_goals decide +kernel

end Request

/-! ### Agreement -/

/-- **The two programs agree on which sample a connection is**: the client's texts
are not cut off, and a server that reads the request whole records exactly when the
client does, under the identifiers that the client posts. -/
theorem probe_agreement {generatedRunId : Bytes} {arguments : List Bytes}
    {options : ClientOptions} {m : Mode} {sequence : ℕ} {record : Bool}
    (hopt : parseOptions generatedRunId arguments = some options)
    (hrun : IsIdentifier 120 (text options.runId))
    (hseq : 1 ≤ sequence ∧ sequence ≤ 1000000) (hhost : IsHostName (options.endpoint m).host) :
    (sampleIdText options.runId (options.endpoint m).mode sequence).length < 180 ∧
    (requestText (sampleIdText options.runId (options.endpoint m).mode sequence) options.runId
      (options.endpoint m).host record).length < 640 ∧
    ∀ {env : ProbeEnv} {server : ServerEnv} {request : Bytes} {s : Served},
      (probe env options (options.endpoint m) sequence record).request = some request →
      server.request = some request → handleConnection server = some s →
        s.recordSample = record ∧
        (probe env options (options.endpoint m) sequence record).posted.isSome = record ∧
        ∀ v, (probe env options (options.endpoint m) sequence record).posted = some v →
          s.sampleId = v.sampleId ∧ s.runId = v.runId := by
  obtain ⟨hpos, hlen, hbytes⟩ := isIdentifier_text_iff.mp hrun
  have hopt := accepted_of_parseOptions hopt
  have hsampleLen := length_sampleIdText_le (m := m) hlen hseq.2
  have hsampleId : validIdentifier (sampleIdText options.runId (lit m.text) sequence) :=
    validIdentifier_iff_isIdentifier.mpr (isIdentifier_sampleIdText hrun hseq.2)
  have hsampleBytes := (validIdentifier_iff.mp hsampleId).2.2
  have hhostBytes : ∀ b ∈ (options.endpoint m).host, isIdentifierByte b :=
    fun b hb => (hhost.2 b hb).1
  have hsize : (requestText (sampleIdText options.runId (lit m.text) sequence) options.runId
      (options.endpoint m).host record).length < 640 :=
    length_requestText_lt hsampleLen hlen hhost.1
  rw [hopt.mode m]
  refine ⟨by omega, hsize, ?_⟩
  rintro env server request s hrequest hreceived hs
  -- the server has the request as it was formatted
  simp only [probe, hopt.mode m, snprintf_sampleIdText hlen hseq.2] at hrequest ⊢
  obtain rfl := eq_of_request_probeLocals hrequest
  obtain ⟨received, hreceived', rfl⟩ := handleConnection_eq_some hs
  obtain rfl := Option.some.inj (hreceived'.symm.trans hreceived)
  rw [snprintf_of_lt hsize, List.take_of_length_le (by omega),
    cString_requestText hsampleBytes hbytes hhostBytes,
    identify_requestText hsampleId hopt.runId (by omega) (by omega) hhostBytes]
  cases record with
  | false => exact ⟨rfl, rfl, fun v hv => by simp at hv⟩
  | true =>
    refine ⟨rfl, rfl, fun v hv => ?_⟩
    obtain rfl := Option.some.inj hv
    exact ⟨rfl, rfl⟩

/-- A probe of the hybrid endpoint that goes well. -/
def answered : ProbeEnv where
  clock n := 1000 * n.toUInt64
  tcpConnect := .ok 3
  sslNew := true
  sslConnect := .ok ()
  groupName := some (lit "X25519MLKEM768")
  version := lit "TLSv1.3"
  cipherName := lit "TLS_AES_256_GCM_SHA384"
  sslWrite := .ok ()
  pieces := [lit "HTTP/1.1 200 OK\r\n\r\n"]
  numberRead := some 3000
  numberWritten := some 1000

/-- The options of a run whose identifier contains what the server looks for. -/
def misleading : ClientOptions := .default (lit "record-1.sample_id-run_id")

theorem probe_agreement_answered :
    ∃ request s v,
      (probe answered misleading (misleading.endpoint .hybrid) 1 true).request = some request ∧
      handleConnection (.receiving 1500 request) = some s ∧
      (probe answered misleading (misleading.endpoint .hybrid) 1 true).posted = some v ∧
      s.recordSample ∧ s.sampleId = v.sampleId ∧ s.runId = v.runId := by
  have hopt : parseOptions (lit "record-1.sample_id-run_id") [] = some misleading := by
    decide +kernel
  have hrun : IsIdentifier 120 (text misleading.runId) := by decide +kernel
  have hhost : IsHostName (misleading.endpoint .hybrid).host := by
    constructor <;> decide +kernel
  obtain ⟨request, hrequest⟩ : ∃ request,
      (probe answered misleading (misleading.endpoint .hybrid) 1 true).request = some request :=
    ⟨_, rfl⟩
  obtain ⟨s, hs⟩ : ∃ s, handleConnection (.receiving 1500 request) = some s := ⟨_, rfl⟩
  obtain ⟨hrecord, -, hpost⟩ := (probe_agreement hopt hrun ⟨Nat.le_refl 1, by decide⟩ hhost).2.2
    hrequest rfl hs
  exact ⟨request, s, _, hrequest, hs, rfl, hrecord, hpost _ rfl⟩

end HybridTls

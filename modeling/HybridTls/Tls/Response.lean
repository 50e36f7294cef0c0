import HybridTls.Lib.JsonText
import HybridTls.Tls.Query
import HybridTls.Tls.SampleId

/-!
# The answer of the TLS server

What `handle_connection` sends back: a JSON object with the sample's identifier and
what was negotiated, behind a header with its length.

Nothing is escaped on the way into the object. The names need no escaping, and the
identifier would not either if it were one; but a value that has been copied into the
buffer stays there when the check behind the copy fails. What then becomes of the
object is read off the bytes: in front of the quote behind the identifier the reader is
inside a string that is a member's value, or what follows does not fit
(`Json.run_next_member`, `Json.run_end`), and in both cases it makes no difference how
the object goes on. The answer is therefore well-formed exactly when it would be with
nothing but the identifier in it (`HybridTls.response_wellFormed_iff`).
-/

namespace HybridTls

open Json Search

/-! ### What is sent -/

/-- The answer's object, before it is formatted into its buffer. -/
def Served.bodyText (s : Served) (o : ServerOptions) : Bytes :=
  lit "\x7b\"sample_id\":\"" ++ s.sampleId ++ lit "\",\"mode\":\"" ++ o.mode ++
    lit "\",\"expected_group\":\"" ++ o.group ++ lit "\",\"negotiated_group\":\"" ++
    s.negotiatedGroup ++ lit "\",\"tls_version\":\"" ++ s.tlsVersion ++ lit "\",\"cipher\":\"" ++
    s.cipher ++ lit "\",\"server_handshake_us\":" ++ decimal s.handshakeUs.toNat ++ lit "\x7d"

/-- `response_body`. -/
def Served.responseBody (s : Served) (o : ServerOptions) : Bytes := snprintf 768 (s.bodyText o)

/-- The header of the answer, with the length of what is behind it. -/
def responseHead (length : ℕ) : Bytes :=
  lit "HTTP/1.1 200 OK\r\nContent-Type: application/json\r\nContent-Length: " ++ decimal length ++
    lit "\r\nConnection: close\r\nCache-Control: no-store\r\n\r\n"

/-- What `handle_connection` writes: the whole answer, if it fits its buffer. -/
def Served.response (s : Served) (o : ServerOptions) : Option Bytes :=
  let response := responseHead (s.responseBody o).length ++ s.responseBody o
  if 0 < response.length ∧ response.length < 1400 then some (snprintf 1400 response) else none

/-! ### What is well-formed -/

/-- An object has a member `sample_id`, and what it has under this name is empty or a
valid identifier. -/
def SampleMembers (members : List (Bytes × Read)) : Prop :=
  (∃ p ∈ members, unescape p.1 = lit "sample_id") ∧
    ∀ p ∈ members, unescape p.1 = lit "sample_id" →
      ∃ v, p.2 = .str v ∧ (unescape v = [] ∨ validIdentifier (unescape v))

/-- **A text identifies a sample**: it is a JSON object that does. -/
def IdentifiesSample (body : Bytes) : Prop :=
  ∃ members, parse body = some (.obj members) ∧ SampleMembers members

/-- The object with nothing but the identifier in it. -/
def sampleObject (x : Bytes) : Bytes := lit "\x7b\"sample_id\":\"" ++ x ++ lit "\"\x7d"

theorem isPlain_of_isIdentifierByte : ∀ b : UInt8, isIdentifierByte b → isPlain b :=
  forall_byte (by decide +kernel)

theorem isPlain_of_validIdentifier {s : Bytes} (h : validIdentifier s) : ∀ b ∈ s, isPlain b :=
  fun b hb => isPlain_of_isIdentifierByte b ((validIdentifier_iff.mp h).2.2 b hb)

/-! ### Reading the answer -/

/-- A member that is a string, behind another. -/
def memberText (name v : Bytes) : Bytes := 44 :: 34 :: (name ++ [34, 58]) ++ 34 :: (v ++ [34])

theorem isDigit_of_mem_decimal {n : ℕ} : ∀ b ∈ decimal n, Json.isDigit b := by
  intro b hb
  obtain ⟨hlow, hhigh⟩ := digit_of_mem_decimal hb
  simp only [Json.isDigit, Bool.and_eq_true, decide_eq_true_eq, UInt8.le_iff_toNat_le]
  exact ⟨hlow, hhigh⟩

/-- A number in decimal notation is spelled like a JSON number. -/
theorem spells_decimal (n : ℕ) : Spells (decimal n) (.num (decimal n)) := by
  refine spells_number ((decimal_eq n).imp_right ?_)
  rintro ⟨b, ds, hdigits, hb⟩
  exact ⟨b, ds, hdigits, hb, isDigit_of_mem_decimal⟩

/-- The names in an answer are plain. -/
structure PlainNames (s : Served) (o : ServerOptions) : Prop where
  mode : ∀ b ∈ o.mode, isPlain b
  group : ∀ b ∈ o.group, isPlain b
  negotiatedGroup : ∀ b ∈ s.negotiatedGroup, isPlain b
  tlsVersion : ∀ b ∈ s.tlsVersion, isPlain b
  cipher : ∀ b ∈ s.cipher, isPlain b

/-- What is behind the identifier and its quote. -/
def Served.restText (s : Served) (o : ServerOptions) : Bytes :=
  memberText (lit "mode") o.mode ++ (memberText (lit "expected_group") o.group ++
    (memberText (lit "negotiated_group") s.negotiatedGroup ++
      (memberText (lit "tls_version") s.tlsVersion ++ (memberText (lit "cipher") s.cipher ++
        (44 :: 34 :: (lit "server_handshake_us" ++ [34, 58]) ++
          (decimal s.handshakeUs.toNat ++ [125]))))))

/-- The members that are read there. -/
def Served.restMembers (s : Served) (o : ServerOptions) : List (Bytes × Read) :=
  [(lit "mode", .str o.mode), (lit "expected_group", .str o.group),
    (lit "negotiated_group", .str s.negotiatedGroup), (lit "tls_version", .str s.tlsVersion),
    (lit "cipher", .str s.cipher),
    (lit "server_handshake_us", .num (decimal s.handshakeUs.toNat))]

section Reading

variable {s : Served} {o : ServerOptions} {x name v : Bytes} {stack : List Frame}
  {members : List (Bytes × Read)}

theorem bodyText_eq :
    s.bodyText o = lit "\x7b\"sample_id\":\"" ++ (s.sampleId ++ 34 :: s.restText o) := by
  have h₁ : lit "\",\"mode\":\"" = 34 :: 44 :: 34 :: (lit "mode" ++ [34, 58, 34]) := by decide
  have h₂ : lit "\",\"expected_group\":\"" =
      34 :: 44 :: 34 :: (lit "expected_group" ++ [34, 58, 34]) := by decide
  have h₃ : lit "\",\"negotiated_group\":\"" =
      34 :: 44 :: 34 :: (lit "negotiated_group" ++ [34, 58, 34]) := by decide
  have h₄ : lit "\",\"tls_version\":\"" =
      34 :: 44 :: 34 :: (lit "tls_version" ++ [34, 58, 34]) := by decide
  have h₅ : lit "\",\"cipher\":\"" = 34 :: 44 :: 34 :: (lit "cipher" ++ [34, 58, 34]) := by decide
  have h₆ : lit "\",\"server_handshake_us\":" =
      34 :: 44 :: 34 :: (lit "server_handshake_us" ++ [34, 58]) := by decide
  have h₇ : lit "\x7d" = [125] := by decide
  simp only [Served.bodyText, Served.restText, memberText, h₁, h₂, h₃, h₄, h₅, h₆, h₇,
    List.append_assoc, List.cons_append, List.nil_append]

theorem sampleObject_eq : sampleObject x = lit "\x7b\"sample_id\":\"" ++ (x ++ [34, 125]) := by
  have h : lit "\"\x7d" = [34, 125] := by decide
  rw [sampleObject, h, List.append_assoc]

theorem restText_eq : s.restText o = membersText
    [(lit "mode", quoted o.mode), (lit "expected_group", quoted o.group),
      (lit "negotiated_group", quoted s.negotiatedGroup), (lit "tls_version", quoted s.tlsVersion),
      (lit "cipher", quoted s.cipher),
      (lit "server_handshake_us", decimal s.handshakeUs.toNat)] := by
  simp only [Served.restText, memberText, membersText, quoted, List.append_assoc,
    List.cons_append, List.nil_append]

/-- **What is behind the identifier is read**, wherever the object is. -/
theorem run_restText (h : PlainNames s o) :
    run ⟨.comma, .obj members :: stack⟩ (s.restText o) =
      deliver (.obj (members ++ s.restMembers o)) stack := by
  have hplain : ∀ name ∈ [lit "mode", lit "expected_group", lit "negotiated_group",
      lit "tls_version", lit "cipher", lit "server_handshake_us"], ∀ b ∈ name, isPlain b := by
    decide +kernel
  simp only [List.forall_mem_cons] at hplain
  obtain ⟨hmode, hgroup, hnegotiated, hversion, hcipher, hus, -⟩ := hplain
  rw [restText_eq]
  refine run_membersText <| .cons ⟨rfl, hmode, spells_plain h.mode⟩ <|
    .cons ⟨rfl, hgroup, spells_plain h.group⟩ <|
    .cons ⟨rfl, hnegotiated, spells_plain h.negotiatedGroup⟩ <|
    .cons ⟨rfl, hversion, spells_plain h.tlsVersion⟩ <|
    .cons ⟨rfl, hcipher, spells_plain h.cipher⟩ <| .cons ⟨rfl, hus, spells_decimal _⟩ .nil

/-- The reader in front of the identifier. -/
def inSampleId : State :=
  ⟨.string false .plain [], [.member [] (lit "sample_id")]⟩

theorem parse_sample (text : Bytes) :
    parse (lit "\x7b\"sample_id\":\"" ++ (x ++ text)) =
      ((run inSampleId x).bind (run · text)).bind State.result := by
  have hopening : run ⟨.value false, []⟩ (lit "\x7b\"sample_id\":\"") = some inSampleId := by
    have h : lit "\x7b\"sample_id\":\"" =
        [123, 34, 115, 97, 109, 112, 108, 101, 95, 105, 100, 34, 58, 34] := by decide
    have hname : lit "sample_id" = [115, 97, 109, 112, 108, 101, 95, 105, 100] := by decide
    rw [h, inSampleId, hname]
    rfl
  rw [parse, run_append_of_run hopening, run_append]

/-- None of the members behind the identifier has its name. -/
theorem unescape_restMembers : ∀ p ∈ s.restMembers o, unescape p.1 ≠ lit "sample_id" := by
  simp only [Served.restMembers, List.forall_mem_cons]
  decide +kernel

/-- So they do not matter. -/
theorem sampleMembers_append :
    SampleMembers (members ++ s.restMembers o) ↔ SampleMembers members := by
  have hrest := unescape_restMembers (s := s) (o := o)
  simp only [SampleMembers, List.mem_append]
  refine and_congr ⟨?_, ?_⟩ ⟨?_, ?_⟩
  · rintro ⟨p, hp | hp, hname⟩
    · exact ⟨p, hp, hname⟩
    · exact absurd hname (hrest p hp)
  · rintro ⟨p, hp, hname⟩
    exact ⟨p, Or.inl hp, hname⟩
  · exact fun h p hp => h p (Or.inl hp)
  · rintro h p (hp | hp) hname
    · exact h p hp hname
    · exact absurd hname (hrest p hp)

/-- **It makes no difference how the object goes on.** -/
theorem identifiesSample_iff (h : PlainNames s o) :
    IdentifiesSample (lit "\x7b\"sample_id\":\"" ++ (x ++ 34 :: s.restText o)) ↔
      IdentifiesSample (sampleObject x) := by
  simp only [IdentifiesSample, sampleObject_eq, parse_sample]
  cases run inSampleId x with
  | none => simp
  | some q =>
    simp only [Option.bind_some]
    by_cases hq : q.InMember
    · -- a value of a member: the object is closed, and it depends on what is still open
      obtain ⟨read, members, name, stack, rfl⟩ := hq
      rw [run_inMember, run_restText h, run_inMember, run_endObject, result_deliver,
        result_deliver]
      by_cases hstack : stack = []
      · simp only [if_pos hstack, Option.some.injEq, Json.obj.injEq, exists_eq_left']
        exact sampleMembers_append
      · simp [hstack]
    · -- anywhere else neither is read
      have hmode : lit "mode" = [109, 111, 100, 101] := by decide
      have hrest : s.restText o =
          44 :: 34 :: (109 :: [111, 100, 101] ++ 34 :: 58 :: (s.restText o).drop 8) := by
        rw [Served.restText, memberText, hmode]
        rfl
      rw [hrest, run_next_member hq (by decide) (by decide +kernel), run_end hq]
      simp

/-- **An identifier by itself**: a value without a quote or a backslash is read as it is,
unless there is a control character in it. -/
theorem identifiesSample_sampleObject_iff (hquote : 34 ∉ x) (hslash : 92 ∉ x) :
    IdentifiesSample (sampleObject x) ↔ x = [] ∨ validIdentifier x := by
  simp only [IdentifiesSample, sampleObject_eq, parse_sample, inSampleId,
    run_unquoted hquote hslash]
  split
  next hplain =>
    simp only [Option.bind_some, run_inMember, run_endObject, result_deliver, if_true,
      List.nil_append, Option.some.injEq, Json.obj.injEq, exists_eq_left', SampleMembers]
    have hname : unescape (lit "sample_id") = lit "sample_id" :=
      unescape_of_not_mem (by decide)
    simp [hname, unescape_of_not_mem hslash]
  next hcontrol =>
    simp only [Option.bind_none, reduceCtorEq, false_and, exists_false, false_iff, not_or]
    refine ⟨fun hnil => hcontrol (by simp [hnil]), fun hvalid => hcontrol ?_⟩
    exact List.all_eq_true.mpr (isPlain_of_validIdentifier hvalid)

end Reading

/-! ### What is in the buffer -/

/-- A value that does no harm between the quotes: it is empty or an identifier, or it has
quotes or backslashes of its own and they are such that there is still one object, which
identifies a sample. -/
def HarmlessSample (x : Bytes) : Prop :=
  x = [] ∨ validIdentifier x ∨ ((34 ∈ x ∨ 92 ∈ x) ∧ IdentifiesSample (sampleObject x))

/-- **A request does no harm**: if `record=1` occurs in it, what stands behind the first
`sample_id=` does none, or it is too long for the buffer. -/
def HarmlessRequest (request : Bytes) : Prop :=
  lit "record=1" <:+: request → ∀ before after,
    FirstOccurrence (queryPattern (lit "sample_id")) request before after →
      (after.takeWhile isValueByte).length < 180 → HarmlessSample (after.takeWhile isValueByte)

section Buffer

variable {request x : Bytes}

theorem identifiesSample_iff_harmless :
    IdentifiesSample (sampleObject x) ↔ HarmlessSample x := by
  by_cases hspecial : 34 ∈ x ∨ 92 ∈ x
  · have hinvalid : ¬ (x = [] ∨ validIdentifier x) := by
      rintro (rfl | hvalid)
      · simp at hspecial
      · have hall := (validIdentifier_iff.mp hvalid).2.2
        rcases hspecial with h | h
        · exact absurd (hall _ h) (by decide)
        · exact absurd (hall _ h) (by decide)
    rw [HarmlessSample, ← or_assoc, or_iff_right hinvalid, and_iff_right hspecial]
  · rw [HarmlessSample, ← or_assoc, or_iff_left fun h => hspecial h.1]
    rw [not_or] at hspecial
    exact identifiesSample_sampleObject_iff hspecial.1 hspecial.2

/-- Where `record=1` occurs, the identifier's buffer has what `extract_query_value` leaves
there, whether it succeeds or not. -/
theorem identify_sampleId :
    (identify request).sampleId =
      if lit "record=1" <:+: request then (extractQueryValue request (lit "sample_id") [] 180).2
      else [] := by
  simp only [identify, ← isSome_strstr_iff]
  cases strstr (lit "record=1") request with
  | none => rfl
  | some start =>
    cases (extractQueryValue request (lit "sample_id") [] 180).1 <;> rfl

/-- This is nothing if there is no occurrence. -/
theorem extractQueryValue_absent {name : Bytes} {size : ℕ}
    (h : ¬ queryPattern name <:+: request) :
    extractQueryValue request name [] size = (false, []) := by
  have hnone : strstr (queryPattern name) request = none := by
    rw [← Option.not_isSome_iff_eq_none, isSome_strstr_iff]
    exact h
  rw [extractQueryValue, hnone]

/-- Otherwise it is what stands behind the first one, if it fits. -/
theorem extractQueryValue_snd {before after name : Bytes} {size : ℕ}
    (hfirst : FirstOccurrence (queryPattern name) request before after) :
    (extractQueryValue request name [] size).2 =
      if (after.takeWhile isValueByte).length < size then after.takeWhile isValueByte else [] := by
  rw [extractQueryValue, hfirst.strstr]
  simp only [List.drop_left, copyValue]
  generalize after.takeWhile isValueByte = w
  by_cases hlen : w.length < size
  · rw [if_pos hlen]
    split
    next hempty =>
      have hzero : w.length = 0 := by omega
      exact (List.length_eq_zero_iff.mp hzero).symm
    next => rfl
  · rw [if_neg hlen, if_pos (Or.inr (Nat.le_of_not_lt hlen))]

/-- **The buffer does no harm when the request does none.** -/
theorem harmless_sampleId_iff :
    HarmlessSample (identify request).sampleId ↔ HarmlessRequest request := by
  have hempty : HarmlessSample [] := Or.inl rfl
  rw [identify_sampleId, HarmlessRequest]
  split
  next hrecord =>
    rw [forall_prop_of_true hrecord]
    by_cases hoccurs : queryPattern (lit "sample_id") <:+: request
    · obtain ⟨before, after, hfirst⟩ := exists_firstOccurrence hoccurs
      rw [extractQueryValue_snd hfirst]
      constructor
      · rintro hharmless before' after' hfirst' hlen
        rw [← (hfirst.unique hfirst').2] at hlen ⊢
        rwa [if_pos hlen] at hharmless
      · intro hall
        split
        next hlen => exact hall before after hfirst hlen
        next => exact hempty
    · rw [extractQueryValue_absent hoccurs]
      refine iff_of_true hempty fun before after hfirst => absurd ?_ hoccurs
      exact ⟨before, after, by rw [hfirst.split, List.append_assoc]⟩
  next hrecord => exact iff_of_true hempty fun h => absurd h hrecord

theorem length_sampleId_le : (identify request).sampleId.length ≤ 179 := by
  rw [identify_sampleId]
  split
  · by_cases hoccurs : queryPattern (lit "sample_id") <:+: request
    · obtain ⟨before, after, hfirst⟩ := exists_firstOccurrence hoccurs
      rw [extractQueryValue_snd hfirst]
      split
      · omega
      · simp
    · rw [extractQueryValue_absent hoccurs]
      simp
  · simp

end Buffer

/-! ### The answer -/

/-- **The answer is as it should be**: nothing of the body is cut off, it is an object that
identifies a sample, and what is sent is the body behind a header with its length. -/
structure WellFormedAnswer (s : Served) (o : ServerOptions) : Prop where
  untruncated : s.responseBody o = s.bodyText o
  identifies : IdentifiesSample (s.responseBody o)
  response : s.response o = some (responseHead (s.responseBody o).length ++ s.responseBody o)

section Answer

variable {env : ServerEnv} {o : ServerOptions} {s : Served} {arguments : List Bytes}

/-- The name of a group is copied with nothing that has to be escaped. -/
theorem isPlain_copyGroup {groupName : Option Bytes} (h : ∀ g ∈ groupName, ∀ b ∈ g, isPlain b) :
    ∀ b ∈ copyGroup groupName, isPlain b := by
  intro b hb
  have hb' := List.mem_of_mem_take hb
  cases groupName with
  | none =>
    have hall : ∀ b ∈ lit "unknown", isPlain b := by decide +kernel
    exact hall b hb'
  | some g => exact h g rfl b hb'

/-- The names are plain if those that OpenSSL gives are, and the server's group. -/
theorem plainNames_of_handleConnection (ho : parseServerOptions arguments = some o)
    (hs : handleConnection env = some s) (hgroup : ∀ b ∈ o.group, isPlain b)
    (hname : ∀ g ∈ env.groupName, ∀ b ∈ g, isPlain b) (hversion : ∀ b ∈ env.version, isPlain b)
    (hcipher : ∀ b ∈ env.cipherName, isPlain b) : PlainNames s o := by
  obtain ⟨m, hm⟩ := validMode_of_parseServerOptions ho
  obtain ⟨received, -, rfl⟩ := handleConnection_eq_some hs
  refine ⟨fun b hb => ?_, hgroup, fun b hb => ?_, fun b hb => hversion b (List.mem_of_mem_take hb),
    fun b hb => hcipher b (List.mem_of_mem_take hb)⟩
  · exact isPlain_of_isIdentifierByte b (identifierByte_of_mem_mode m b (hm ▸ hb))
  · exact isPlain_copyGroup hname b hb

/-- **Nothing is cut off.** -/
theorem length_bodyText_lt (ho : parseServerOptions arguments = some o)
    (hs : handleConnection env = some s) (hgroup : o.group.length ≤ 80) :
    (s.bodyText o).length < 768 := by
  obtain ⟨m, hm⟩ := validMode_of_parseServerOptions ho
  obtain ⟨received, -, rfl⟩ := handleConnection_eq_some hs
  have hsample : (identify (cString (received.take 2047))).sampleId.length ≤ 179 :=
    length_sampleId_le
  have hmode : o.mode.length ≤ 11 := hm ▸ length_mode_le m
  have hnegotiated : (copyGroup env.groupName).length ≤ 99 := length_snprintf_le 100 _
  have hversion : (snprintf 50 env.version).length ≤ 49 := length_snprintf_le 50 _
  have hcipher : (snprintf 120 env.cipherName).length ≤ 119 := length_snprintf_le 120 _
  have hus : (decimal (env.clock 1 - env.clock 0).toNat).length ≤ 20 :=
    length_decimal_le (by decide) (Nat.lt_of_lt_of_le (UInt64.toNat_lt _) (by decide))
  have h₁ : (lit "\x7b\"sample_id\":\"").length = 14 := by decide
  have h₂ : (lit "\",\"mode\":\"").length = 10 := by decide
  have h₃ : (lit "\",\"expected_group\":\"").length = 20 := by decide
  have h₄ : (lit "\",\"negotiated_group\":\"").length = 22 := by decide
  have h₅ : (lit "\",\"tls_version\":\"").length = 17 := by decide
  have h₆ : (lit "\",\"cipher\":\"").length = 12 := by decide
  have h₇ : (lit "\",\"server_handshake_us\":").length = 24 := by decide
  have h₈ : (lit "\x7d").length = 1 := by decide
  simp only [Served.bodyText, List.length_append, h₁, h₂, h₃, h₄, h₅, h₆, h₇, h₈]
  omega

/-- A body that is not cut off is sent whole, behind its length. -/
theorem response_eq (h : (s.responseBody o).length < 768) :
    s.response o = some (responseHead (s.responseBody o).length ++ s.responseBody o) := by
  have hlength : (decimal (s.responseBody o).length).length ≤ 3 :=
    length_decimal_le (by decide) (by omega)
  have h₁ : (lit "HTTP/1.1 200 OK\r\nContent-Type: application/json\r\nContent-Length: ").length =
      65 := by decide
  have h₂ : (lit "\r\nConnection: close\r\nCache-Control: no-store\r\n\r\n").length = 48 := by
    decide
  have hresponse : 0 < (responseHead (s.responseBody o).length ++ s.responseBody o).length ∧
      (responseHead (s.responseBody o).length ++ s.responseBody o).length < 1400 := by
    simp only [responseHead, List.length_append, h₁, h₂]
    omega
  rw [Served.response, if_pos hresponse, snprintf_of_lt hresponse.2]

end Answer

/-- **When the server's answer is well-formed.** Whatever arrives, nothing is cut off and
the length is right; and the object identifies a sample exactly when the request does no
harm. -/
theorem response_wellFormed_iff {env : ServerEnv} {o : ServerOptions} {s : Served}
    {arguments : List Bytes} (ho : parseServerOptions arguments = some o)
    (hs : handleConnection env = some s) (hlength : o.group.length ≤ 80)
    (hgroup : ∀ b ∈ o.group, isPlain b) (hname : ∀ g ∈ env.groupName, ∀ b ∈ g, isPlain b)
    (hversion : ∀ b ∈ env.version, isPlain b) (hcipher : ∀ b ∈ env.cipherName, isPlain b) :
    WellFormedAnswer s o ↔
      ∀ received ∈ env.request, HarmlessRequest (cString (received.take 2047)) := by
  have hlt := length_bodyText_lt ho hs hlength
  have huntruncated : s.responseBody o = s.bodyText o := snprintf_of_lt hlt
  have hplain := plainNames_of_handleConnection ho hs hgroup hname hversion hcipher
  have hidentifies : IdentifiesSample (s.responseBody o) ↔ HarmlessSample s.sampleId := by
    rw [huntruncated, bodyText_eq, identifiesSample_iff hplain, identifiesSample_iff_harmless]
  obtain ⟨received, hreceived, rfl⟩ := handleConnection_eq_some hs
  have hrequest : (∀ received ∈ env.request, HarmlessRequest (cString (received.take 2047))) ↔
      HarmlessRequest (cString (received.take 2047)) := by
    simp [hreceived]
  rw [hrequest, ← harmless_sampleId_iff, ← hidentifies]
  exact ⟨WellFormedAnswer.identifies, fun h =>
    ⟨huntruncated, h, response_eq (huntruncated ▸ hlt)⟩⟩

/-- A request for a sample that is to be recorded. -/
def sampleRequest (value : Bytes) : Bytes :=
  lit "GET /?record=1&sample_id=" ++ value ++ lit "&run_id=run-1 HTTP/1.1\r\n\r\n"

/-- One with an identifier is answered as it should be. -/
theorem response_wellFormed_identifier :
    ∃ s, handleConnection (ServerEnv.receiving 0 (sampleRequest (lit "run-1-hybrid-000001"))) =
        some s ∧ s.sampleId = lit "run-1-hybrid-000001" ∧
      WellFormedAnswer s ServerOptions.default := by
  have ho : parseServerOptions [] = some ServerOptions.default := by decide +kernel
  obtain ⟨s, hs⟩ : ∃ s, handleConnection
      (ServerEnv.receiving 0 (sampleRequest (lit "run-1-hybrid-000001"))) = some s := ⟨_, rfl⟩
  have hname : ∀ g ∈ (ServerEnv.receiving 0 (sampleRequest (lit "run-1-hybrid-000001"))).groupName,
      ∀ b ∈ g, isPlain b := by
    rintro _ ⟨⟩
    decide +kernel
  have hanswer := response_wellFormed_iff ho hs (by decide +kernel) (by decide +kernel) hname
    (by decide +kernel) (by decide +kernel)
  have hsample : s.sampleId = lit "run-1-hybrid-000001" := by
    obtain ⟨_, ⟨⟩, rfl⟩ := handleConnection_eq_some hs
    decide +kernel
  refine ⟨s, hs, hsample, hanswer.mpr ?_⟩
  rintro _ ⟨⟩
  exact harmless_sampleId_iff.mp (Or.inr (Or.inl (by decide +kernel)))

/-- One with a quote in the value is not: the value stays in the buffer although it has
been refused, and the answer is not JSON. -/
theorem not_response_wellFormed :
    ∃ s, handleConnection (ServerEnv.receiving 0 (sampleRequest (lit "a\"b"))) = some s ∧
      s.recordSample = false ∧ (parse (s.responseBody ServerOptions.default)).isNone ∧
      ¬ WellFormedAnswer s ServerOptions.default := by
  obtain ⟨s, hs⟩ : ∃ s, handleConnection (ServerEnv.receiving 0 (sampleRequest (lit "a\"b"))) =
      some s := ⟨_, rfl⟩
  have hnone : (parse (s.responseBody ServerOptions.default)).isNone := by
    obtain ⟨_, ⟨⟩, rfl⟩ := handleConnection_eq_some hs
    decide +kernel
  refine ⟨s, hs, ?_, hnone, fun h => ?_⟩
  · obtain ⟨_, ⟨⟩, rfl⟩ := handleConnection_eq_some hs
    decide +kernel
  · obtain ⟨members, hparse, -⟩ := h.identifies
    rw [hparse] at hnone
    cases hnone

end HybridTls

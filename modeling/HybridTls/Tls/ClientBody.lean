import HybridTls.Lib.JsonText
import HybridTls.Tls.Probe
import HybridTls.Tls.Response
import Mathlib.Algebra.Order.BigOperators.Group.List

/-!
# The body of a client's measurement

The text that `record_client` posts: an object with fifteen members, formatted into a
buffer of 2600 bytes, of which the last is formatted into one of 1100 bytes before, and
the error in it is escaped into one of 1024 bytes.

The buffers are large enough. A byte of the error becomes at most two, and an error has
at most 511 (`HybridTls.jsonEscape_eq`), so what is escaped leaves room for the quotes;
and with the longest strings and numbers the body has less than 2600 bytes
(`HybridTls.length_jsonText_lt`). What is formatted is the text of an object whose
members spell what has been put in (`HybridTls.jsonText_eq`), so that it can be read back
(`HybridTls.json_roundTrips`).
-/

namespace HybridTls

open Json

/-! ### What is posted -/

/-- `escaped_error`. -/
def ClientValues.escapedError (v : ClientValues) : Bytes := jsonEscape v.error 1024

/-- The last value, before it is formatted into its buffer. -/
def ClientValues.errorText (v : ClientValues) : Bytes :=
  if v.success then lit "null" else lit "\"" ++ v.escapedError ++ lit "\""

/-- `error_field`. -/
def ClientValues.errorField (v : ClientValues) : Bytes := snprintf 1100 v.errorText

/-- The body, before it is formatted into its buffer. -/
def ClientValues.jsonText (v : ClientValues) : Bytes :=
  lit "\x7b\"sample_id\":\"" ++ v.sampleId ++ lit "\",\"run_id\":\"" ++ v.runId ++
    lit "\",\"mode\":\"" ++ v.mode ++ lit "\",\"expected_group\":\"" ++ v.expectedGroup ++
    lit "\",\"negotiated_group\":\"" ++ v.negotiatedGroup ++ lit "\",\"tls_version\":\"" ++
    v.tlsVersion ++ lit "\",\"cipher\":\"" ++ v.cipher ++ lit "\",\"client_tcp_us\":" ++
    decimal v.tcpUs.toNat ++ lit ",\"client_handshake_us\":" ++ decimal v.handshakeUs.toNat ++
    lit ",\"client_ttfb_us\":" ++ decimal v.ttfbUs.toNat ++ lit ",\"client_total_us\":" ++
    decimal v.totalUs.toNat ++ lit ",\"bytes_sent\":" ++ decimal v.bytesSent.toNat ++
    lit ",\"bytes_received\":" ++ decimal v.bytesReceived.toNat ++ lit ",\"success\":" ++
    lit (if v.success then "true" else "false") ++ lit ",\"error\":" ++ v.errorField ++ lit "\x7d"

/-- `json`. -/
def ClientValues.json (v : ClientValues) : Bytes := snprintf 2600 v.jsonText

/-! ### What is asked of it -/

/-- **The values fit**: the identifiers are valid, and the strings are no longer than the
buffers they have been copied into, and contain nothing that has to be escaped. -/
structure ClientValues.Fits (v : ClientValues) : Prop where
  sampleId : validIdentifier v.sampleId
  runId : validIdentifier v.runId
  mode : v.mode.length ≤ 99 ∧ ∀ b ∈ v.mode, isPlain b
  expectedGroup : v.expectedGroup.length ≤ 99 ∧ ∀ b ∈ v.expectedGroup, isPlain b
  negotiatedGroup : v.negotiatedGroup.length ≤ 99 ∧ ∀ b ∈ v.negotiatedGroup, isPlain b
  tlsVersion : v.tlsVersion.length ≤ 49 ∧ ∀ b ∈ v.tlsVersion, isPlain b
  cipher : v.cipher.length ≤ 119 ∧ ∀ b ∈ v.cipher, isPlain b
  error : v.error.length ≤ 511

/-- What is to be read: the values that were given, and of the error what is left of it
when line breaks and tabs have become blanks and other control characters are gone. -/
def ClientValues.fields (v : ClientValues) : List (Bytes × Json ℚ Bytes) :=
  [(lit "sample_id", .str v.sampleId), (lit "run_id", .str v.runId), (lit "mode", .str v.mode),
    (lit "expected_group", .str v.expectedGroup),
    (lit "negotiated_group", .str v.negotiatedGroup), (lit "tls_version", .str v.tlsVersion),
    (lit "cipher", .str v.cipher), (lit "client_tcp_us", .num v.tcpUs.toNat),
    (lit "client_handshake_us", .num v.handshakeUs.toNat),
    (lit "client_ttfb_us", .num v.ttfbUs.toNat), (lit "client_total_us", .num v.totalUs.toNat),
    (lit "bytes_sent", .num v.bytesSent.toNat),
    (lit "bytes_received", .num v.bytesReceived.toNat), (lit "success", .bool v.success),
    (lit "error", if v.success then .null else .str (v.error.flatMap sanitizeByte))]

/-- **The body can be read back**: none of the buffers cuts anything off, and the text is
that of an object with the values that were given. -/
structure ClientValues.RoundTrips (v : ClientValues) : Prop where
  escapedError : v.escapedError = v.error.flatMap escapeByte
  errorField : v.errorField = v.errorText
  json : v.json = v.jsonText
  fields : loads v.json = some (.obj v.fields)

/-! ### The buffers -/

section Buffers

variable {v : ClientValues} {input : Bytes}

theorem length_flatMap_escapeByte_le (input : Bytes) :
    (input.flatMap escapeByte).length ≤ 2 * input.length := by
  induction input with
  | nil => simp
  | cons b input ih =>
    have hb := length_escapeByte_le b
    rw [List.flatMap_cons, List.length_append, List.length_cons]
    omega

/-- **Nothing is cut off** if there is room for two bytes for each. -/
theorem jsonEscape_eq (h : input.length ≤ 511) :
    jsonEscape input 1024 = input.flatMap escapeByte := by
  have hlength := length_flatMap_escapeByte_le input
  exact jsonEscapeFrom_of_le (by omega)

theorem length_errorText_le (h : v.error.length ≤ 511) : v.errorText.length ≤ 1024 := by
  have hnull : (lit "null").length = 4 := by decide
  have hquote : (lit "\"").length = 1 := by decide
  have hescaped := length_flatMap_escapeByte_le v.error
  rw [← jsonEscape_eq h] at hescaped
  unfold ClientValues.errorText ClientValues.escapedError
  split
  · omega
  · simp only [List.length_append, hquote]
    omega

theorem errorField_eq (h : v.error.length ≤ 511) : v.errorField = v.errorText :=
  snprintf_of_lt (Nat.lt_of_le_of_lt (length_errorText_le h) (by decide))

theorem length_decimal_toNat_le (n : UInt64) : (decimal n.toNat).length ≤ 20 :=
  length_decimal_le (by decide) (Nat.lt_of_lt_of_le n.toNat_lt (by decide))

/-- The members of the body, with the texts of their values. -/
def ClientValues.memberTexts (v : ClientValues) : List (Bytes × Bytes) :=
  [(lit "sample_id", quoted v.sampleId), (lit "run_id", quoted v.runId),
    (lit "mode", quoted v.mode), (lit "expected_group", quoted v.expectedGroup),
    (lit "negotiated_group", quoted v.negotiatedGroup), (lit "tls_version", quoted v.tlsVersion),
    (lit "cipher", quoted v.cipher), (lit "client_tcp_us", decimal v.tcpUs.toNat),
    (lit "client_handshake_us", decimal v.handshakeUs.toNat),
    (lit "client_ttfb_us", decimal v.ttfbUs.toNat),
    (lit "client_total_us", decimal v.totalUs.toNat),
    (lit "bytes_sent", decimal v.bytesSent.toNat),
    (lit "bytes_received", decimal v.bytesReceived.toNat),
    (lit "success", lit (if v.success then "true" else "false")), (lit "error", v.errorField)]

/-- **The body is the text of an object.** -/
theorem jsonText_eq (v : ClientValues) : v.jsonText = objectText v.memberTexts := by
  have hopen : lit "\x7b\"sample_id\":\"" = 123 :: 34 :: (lit "sample_id" ++ [34, 58, 34]) := by
    decide +kernel
  -- behind a string its quote comes first
  have hstrings : ∀ s ∈ ["run_id", "mode", "expected_group", "negotiated_group", "tls_version",
      "cipher"], lit ("\",\"" ++ s ++ "\":\"") = 34 :: 44 :: 34 :: (lit s ++ [34, 58, 34]) := by
    decide +kernel
  have htcp : lit "\",\"client_tcp_us\":" =
      34 :: 44 :: 34 :: (lit "client_tcp_us" ++ [34, 58]) := by
    decide +kernel
  have hnumbers : ∀ s ∈ ["client_handshake_us", "client_ttfb_us", "client_total_us", "bytes_sent",
      "bytes_received", "success", "error"],
      lit (",\"" ++ s ++ "\":") = 44 :: 34 :: (lit s ++ [34, 58]) := by
    decide +kernel
  have hclose : lit "\x7d" = [125] := by decide +kernel
  simp only [List.forall_mem_cons, String.reduceAppend] at hstrings hnumbers
  obtain ⟨hrun, hmode, hexpected, hnegotiated, hversion, hcipher, -⟩ := hstrings
  obtain ⟨hhandshake, httfb, htotal, hsent, hreceived, hsuccess, herror, -⟩ := hnumbers
  unfold ClientValues.jsonText ClientValues.memberTexts
  generalize v.errorField = errorField
  generalize lit (if v.success then "true" else "false") = success
  simp only [objectText, membersText, quoted, hopen, hrun, hmode, hexpected, hnegotiated, hversion,
    hcipher, htcp, hhandshake, httfb, htotal, hsent, hreceived, hsuccess, herror, hclose,
    List.append_assoc, List.cons_append, List.nil_append]

/-- The longest values: of strings with their quotes, of numbers, and of the error. -/
def valueBounds : List ℕ := [162, 162, 101, 101, 101, 51, 121, 20, 20, 20, 20, 20, 20, 5, 1024]

theorem length_quoted_le {w : Bytes} {n : ℕ} (h : w.length ≤ n) : (quoted w).length ≤ n + 2 := by
  rw [quoted, List.length_cons, List.length_append, List.length_singleton]
  omega

theorem length_values_le (h : v.Fits) :
    List.Forall₂ (· ≤ ·) (v.memberTexts.map (·.2.length)) valueBounds := by
  have hsuccess : (lit (if v.success then "true" else "false")).length ≤ 5 := by
    cases v.success <;> decide +kernel
  have herror : v.errorField.length ≤ 1024 :=
    errorField_eq h.error ▸ length_errorText_le h.error
  exact .cons (length_quoted_le (validIdentifier_iff.mp h.sampleId).2.1) <|
    .cons (length_quoted_le (validIdentifier_iff.mp h.runId).2.1) <|
    .cons (length_quoted_le h.mode.1) <| .cons (length_quoted_le h.expectedGroup.1) <|
    .cons (length_quoted_le h.negotiatedGroup.1) <| .cons (length_quoted_le h.tlsVersion.1) <|
    .cons (length_quoted_le h.cipher.1) <| .cons (length_decimal_toNat_le _) <|
    .cons (length_decimal_toNat_le _) <| .cons (length_decimal_toNat_le _) <|
    .cons (length_decimal_toNat_le _) <| .cons (length_decimal_toNat_le _) <|
    .cons (length_decimal_toNat_le _) <| .cons hsuccess <| .cons herror .nil

/-- **The longest body** fits. -/
theorem length_jsonText_lt (h : v.Fits) : v.jsonText.length < 2600 := by
  have hnames : (v.memberTexts.map (·.1.length)).sum = 163 := by
    simp only [ClientValues.memberTexts, List.map_cons, List.map_nil]
    decide +kernel
  have hvalues : (v.memberTexts.map (·.2.length)).sum ≤ valueBounds.sum :=
    (length_values_le h).sum_le_sum
  have hbounds : valueBounds.sum = 1948 := by decide
  have hcount : v.memberTexts.length = 15 := rfl
  have hlength : (objectText v.memberTexts).length = 1 + (v.memberTexts.map (·.1.length)).sum +
      (v.memberTexts.map (·.2.length)).sum + 4 * v.memberTexts.length :=
    length_objectText (List.cons_ne_nil _ _)
  rw [jsonText_eq, hlength, hnames, hcount]
  omega

end Buffers

/-! ### Reading it back -/

/-- The members as they are spelled. -/
def ClientValues.readMembers (v : ClientValues) : List (Bytes × Read) :=
  [(lit "sample_id", .str v.sampleId), (lit "run_id", .str v.runId), (lit "mode", .str v.mode),
    (lit "expected_group", .str v.expectedGroup),
    (lit "negotiated_group", .str v.negotiatedGroup), (lit "tls_version", .str v.tlsVersion),
    (lit "cipher", .str v.cipher), (lit "client_tcp_us", .num (decimal v.tcpUs.toNat)),
    (lit "client_handshake_us", .num (decimal v.handshakeUs.toNat)),
    (lit "client_ttfb_us", .num (decimal v.ttfbUs.toNat)),
    (lit "client_total_us", .num (decimal v.totalUs.toNat)),
    (lit "bytes_sent", .num (decimal v.bytesSent.toNat)),
    (lit "bytes_received", .num (decimal v.bytesReceived.toNat)), (lit "success", .bool v.success),
    (lit "error", if v.success then .null else .str (v.error.flatMap escapeByte))]

section RoundTrip

variable {v : ClientValues}

theorem spells_success (b : Bool) : Spells (lit (if b then "true" else "false")) (.bool b) := by
  cases b with
  | true => exact spells_word .true
  | false => exact spells_word .false

/-- What is written for a byte goes into a string as it is. -/
theorem inside_escapeByte (b : UInt8) : Inside (escapeByte b) := by
  unfold escapeByte
  split
  next hspecial => exact inside_escaped (by simpa using hspecial)
  next hspecial =>
    split
    · exact inside_plain (by decide +kernel)
    · split
      next hlow =>
        simp only [Bool.or_eq_true, decide_eq_true_eq, not_or] at hspecial
        exact inside_plain fun c hc => by
          obtain rfl := List.mem_singleton.mp hc
          simp [isPlain, hlow, hspecial]
      next => exact inside_plain (by simp)

theorem spells_error (h : v.error.length ≤ 511) : Spells v.errorField
    (if v.success then .null else .str (v.error.flatMap escapeByte)) := by
  rw [errorField_eq h, ClientValues.errorText, ClientValues.escapedError, jsonEscape_eq h]
  cases v.success with
  | true => exact spells_word .null
  | false => exact spells_quoted (.flatMap fun b _ => inside_escapeByte b)

/-- **Every member is spelled as it should be.** -/
theorem spellsMembers (h : v.Fits) : List.Forall₂ SpellsMember v.memberTexts v.readMembers := by
  have hplain : ∀ name ∈ v.memberTexts.map (·.1), ∀ b ∈ name, isPlain b := by
    simp only [ClientValues.memberTexts, List.map_cons, List.map_nil]
    decide +kernel
  simp only [ClientValues.memberTexts, List.map_cons, List.map_nil, List.forall_mem_cons] at hplain
  obtain ⟨h₁, h₂, h₃, h₄, h₅, h₆, h₇, h₈, h₉, h₁₀, h₁₁, h₁₂, h₁₃, h₁₄, h₁₅, -⟩ := hplain
  exact .cons ⟨rfl, h₁, spells_plain (isPlain_of_validIdentifier h.sampleId)⟩ <|
    .cons ⟨rfl, h₂, spells_plain (isPlain_of_validIdentifier h.runId)⟩ <|
    .cons ⟨rfl, h₃, spells_plain h.mode.2⟩ <|
    .cons ⟨rfl, h₄, spells_plain h.expectedGroup.2⟩ <|
    .cons ⟨rfl, h₅, spells_plain h.negotiatedGroup.2⟩ <|
    .cons ⟨rfl, h₆, spells_plain h.tlsVersion.2⟩ <|
    .cons ⟨rfl, h₇, spells_plain h.cipher.2⟩ <|
    .cons ⟨rfl, h₈, spells_decimal _⟩ <| .cons ⟨rfl, h₉, spells_decimal _⟩ <|
    .cons ⟨rfl, h₁₀, spells_decimal _⟩ <| .cons ⟨rfl, h₁₁, spells_decimal _⟩ <|
    .cons ⟨rfl, h₁₂, spells_decimal _⟩ <| .cons ⟨rfl, h₁₃, spells_decimal _⟩ <|
    .cons ⟨rfl, h₁₄, spells_success _⟩ <| .cons ⟨rfl, h₁₅, spells_error h.error⟩ .nil

/-- Digits as bytes stand for the same number as characters. -/
theorem digitsValue_map_byte {cs : List Char} (h : ∀ c ∈ cs, c.isDigit) :
    digitsValue (cs.map byte) = Nat.ofDigitChars 10 cs 0 := by
  -- what has been read before varies along the digits
  suffices hfold : ∀ k, (cs.map byte).foldl (fun n b => 10 * n + (b.toNat - 48)) k =
      Nat.ofDigitChars 10 cs k from hfold 0
  induction cs with
  | nil => exact fun _ => rfl
  | cons c cs ih =>
    intro k
    obtain ⟨-, hhigh⟩ := toNat_of_isDigit (h c List.mem_cons_self)
    have hbyte : (byte c).toNat = c.toNat := by
      change c.toNat % 256 = c.toNat
      omega
    rw [List.map_cons, List.foldl_cons, ih fun d hd => h d (List.mem_cons_of_mem _ hd), hbyte]
    rfl

/-- **A number is what its digits stand for.** -/
theorem numberValue_decimal (n : ℕ) : numberValue (decimal n) = n := by
  rw [numberValue_digits isDigit_of_mem_decimal, decimal, digitsValue_map_byte fun c hc =>
    Nat.isDigit_of_mem_toDigits (by decide) (by decide) hc, Nat.ofDigitChars_ten_toDigits]

theorem unescape_escapeByte (b : UInt8) (rest : Bytes) :
    unescape (escapeByte b ++ rest) = sanitizeByte b ++ unescape rest := by
  unfold escapeByte sanitizeByte
  by_cases hspecial : b = 34 ∨ b = 92
  · have hkept : ¬ (b = 10 || b = 13 || b = 9) ∧ 32 ≤ b := by
      rcases hspecial with rfl | rfl <;> decide
    rw [if_pos (by simpa using hspecial), if_neg hkept.1, if_pos hkept.2]
    exact unescape_escaped hspecial rest
  · rw [if_neg (by simpa using hspecial)]
    split
    · exact unescape_cons (by decide) rest
    · split
      · exact unescape_cons (fun h => hspecial (Or.inr h)) rest
      · rfl

theorem unescape_flatMap_escapeByte (input : Bytes) :
    unescape (input.flatMap escapeByte) = input.flatMap sanitizeByte :=
  read_flatMap_escapeByte rfl unescape_escapeByte input

theorem unescape_of_plain {s : Bytes} (h : ∀ b ∈ s, isPlain b) : unescape s = s :=
  unescape_of_not_mem fun hmem => by simpa [isPlain] using h 92 hmem

/-- **The members stand for the values that were given.** -/
theorem mapMembers_readMembers (h : v.Fits) :
    mapMembers numberValue unescape v.readMembers = v.fields := by
  have hnames : ∀ name ∈ v.memberTexts.map (·.1), unescape name = name := by
    simp only [ClientValues.memberTexts, List.map_cons, List.map_nil]
    decide +kernel
  simp only [ClientValues.memberTexts, List.map_cons, List.map_nil, List.forall_mem_cons] at hnames
  have hidentifier : ∀ s, validIdentifier s → unescape s = s := fun s hs =>
    unescape_of_plain (isPlain_of_validIdentifier hs)
  simp only [ClientValues.readMembers, ClientValues.fields, mapMembers, Json.map, hnames,
    hidentifier _ h.sampleId, hidentifier _ h.runId, unescape_of_plain h.mode.2,
    unescape_of_plain h.expectedGroup.2, unescape_of_plain h.negotiatedGroup.2,
    unescape_of_plain h.tlsVersion.2, unescape_of_plain h.cipher.2, numberValue_decimal]
  cases v.success with
  | true => rfl
  | false => simp only [Bool.false_eq_true, if_false, Json.map, unescape_flatMap_escapeByte]

/-- **The body round-trips**: it fits its buffers, it is well-formed, and what is read is
what was put in. -/
theorem json_roundTrips (h : v.Fits) : v.RoundTrips where
  escapedError := jsonEscape_eq h.error
  errorField := errorField_eq h.error
  json := snprintf_of_lt (length_jsonText_lt h)
  fields := by
    rw [ClientValues.json, snprintf_of_lt (length_jsonText_lt h), jsonText_eq, loads,
      parse_objectText (spellsMembers h), Option.map_some, Json.map, mapMembers_readMembers h]

end RoundTrip

/-- The longest error, of quotes only, in a body with the largest numbers. -/
def quotesOnly : ClientValues where
  sampleId := lit "run-1-hybrid-000001"
  runId := lit "run-1"
  mode := lit "hybrid"
  expectedGroup := lit "X25519MLKEM768"
  negotiatedGroup := []
  tlsVersion := []
  cipher := []
  tcpUs := 18446744073709551615
  handshakeUs := 18446744073709551615
  ttfbUs := 18446744073709551615
  totalUs := 18446744073709551615
  bytesSent := 18446744073709551615
  bytesReceived := 18446744073709551615
  success := false
  error := List.replicate 511 34

theorem json_roundTrips_quotesOnly : quotesOnly.RoundTrips := by
  refine json_roundTrips ⟨?_, ?_, ?_, ?_, ?_, ?_, ?_, ?_⟩
  all_goals decide +kernel

/-! ### The values of a probe -/

/-- The members that the schemas are given. -/
def ClientPost.members (p : ClientPost) : List (String × Json ℚ String) :=
  let string (s : Option String) : Json ℚ String := s.elim .null .str
  let number (n : Option ℤ) : Json ℚ String := n.elim .null fun n => .num n
  [("sample_id", .str p.sampleId), ("run_id", .str p.runId), ("mode", .str p.mode),
    ("expected_group", .str p.expectedGroup), ("negotiated_group", string p.negotiatedGroup),
    ("tls_version", string p.tlsVersion), ("cipher", string p.cipher),
    ("client_tcp_us", number p.clientTcpUs), ("client_handshake_us", number p.clientHandshakeUs),
    ("client_ttfb_us", number p.clientTtfbUs), ("client_total_us", number p.clientTotalUs),
    ("bytes_sent", number p.bytesSent), ("bytes_received", number p.bytesReceived),
    ("success", p.success.elim .null .bool), ("error", string p.error)]

/-- The strings that a probe has copied need no escaping. -/
structure Locals.Plain (l : Locals) : Prop where
  connectionError : l.connectionError.length ≤ 511
  groupCopy : l.groupCopy.length ≤ 99 ∧ ∀ b ∈ l.groupCopy, isPlain b
  versionCopy : l.versionCopy.length ≤ 49 ∧ ∀ b ∈ l.versionCopy, isPlain b
  cipherCopy : l.cipherCopy.length ≤ 119 ∧ ∀ b ∈ l.cipherCopy, isPlain b

section Probe

variable {v : ClientValues} {env : ProbeEnv} {options : ClientOptions} {m : Mode} {sequence : ℕ}
  {endpoint : Endpoint} {request : Bytes}

/-- **What is read is what the schemas are given.** -/
theorem mapMembers_fields (h : v.error.length ≤ 511) :
    mapMembers id text v.fields = v.post.members := by
  have hnames : ∀ name ∈ ["sample_id", "run_id", "mode", "expected_group", "negotiated_group",
      "tls_version", "cipher", "client_tcp_us", "client_handshake_us", "client_ttfb_us",
      "client_total_us", "bytes_sent", "bytes_received", "success", "error"],
      text (lit name) = name := by
    decide +kernel
  simp only [List.forall_mem_cons] at hnames
  have herror : jsonUnescape (jsonEscape v.error 1024) = v.error.flatMap sanitizeByte := by
    rw [jsonEscape_eq h]
    exact jsonUnescape_flatMap v.error
  simp only [ClientValues.fields, ClientPost.members, ClientValues.post, mapMembers, Json.map,
    hnames, herror, Option.elim_some, id_eq, Int.cast_natCast]
  cases v.success with
  | true => rfl
  | false => rfl

theorem plain_probeLocals (hname : ∀ g ∈ env.groupName, ∀ b ∈ g, isPlain b)
    (hversion : ∀ b ∈ env.version, isPlain b) (hcipher : ∀ b ∈ env.cipherName, isPlain b) :
    (probeLocals env endpoint request).Plain := by
  have hempty : ∀ n, ([] : Bytes).length ≤ n ∧ ∀ b ∈ ([] : Bytes), isPlain b := by simp
  refine probeLocals_induction ⟨(hempty 511).1, hempty 99, hempty 49, hempty 119⟩
    fun l l' hassign hl => ?_
  cases hassign with
  | error error =>
    exact ⟨length_snprintf_le 512 error, hl.groupCopy, hl.versionCopy, hl.cipherCopy⟩
  | names =>
    exact ⟨hl.connectionError, ⟨length_snprintf_le 100 _, isPlain_copyGroup hname⟩,
      ⟨length_snprintf_le 50 _, fun b hb => hversion b (List.mem_of_mem_take hb)⟩,
      ⟨length_snprintf_le 120 _, fun b hb => hcipher b (List.mem_of_mem_take hb)⟩⟩
  | _ => exact ⟨hl.connectionError, hl.groupCopy, hl.versionCopy, hl.cipherCopy⟩

theorem isPlain_group (m : Mode) : m.group.length ≤ 99 ∧ ∀ b ∈ m.group, isPlain b := by
  cases m <;> decide +kernel

/-- **What a probe posts fits**, if the names that OpenSSL gives need no escaping. -/
theorem fits_probe (hopt : options.Accepted) (hrun : IsIdentifier 120 (text options.runId))
    (hseq : sequence ≤ 1000000) (hname : ∀ g ∈ env.groupName, ∀ b ∈ g, isPlain b)
    (hversion : ∀ b ∈ env.version, isPlain b) (hcipher : ∀ b ∈ env.cipherName, isPlain b)
    (hv : (probe env options (options.endpoint m) sequence true).posted = some v) : v.Fits := by
  obtain rfl := Option.some.inj hv
  rw [hopt.mode m, snprintf_sampleIdText (isIdentifier_text_iff.mp hrun).2.1 hseq]
  have hl : (probeLocals env (options.endpoint m) (snprintf 640 (requestText
      (sampleIdText options.runId (lit m.text) sequence) options.runId (options.endpoint m).host
      true))).Plain := plain_probeLocals hname hversion hcipher
  exact {
    sampleId := validIdentifier_iff_isIdentifier.mpr (isIdentifier_sampleIdText hrun hseq)
    runId := hopt.runId
    mode := by
      simp only [Locals.values, hopt.mode m]
      exact ⟨(length_mode_le m).trans (by decide), fun b hb =>
        isPlain_of_isIdentifierByte b (identifierByte_of_mem_mode m b hb)⟩
    expectedGroup := by
      simp only [Locals.values, hopt.group m]
      exact isPlain_group m
    negotiatedGroup := hl.groupCopy
    tlsVersion := hl.versionCopy
    cipher := hl.cipherCopy
    error := hl.connectionError }

end Probe

end HybridTls

import HybridTls.Tls.ClientBody

/-!
# The body of a server's measurement

The text that `handle_connection` posts when a request asks for its sample to be
recorded: an object with eight members, formatted into a buffer of 1200 bytes.

What is recorded has two valid identifiers, since it would not be recorded otherwise, and
the other strings are names. So nothing is cut off and nothing has to be escaped, and the
body can be read back (`HybridTls.postBody_roundTrips`). What is read are the members that
the dashboard's schema is given (`HybridTls.mapMembers_postFields`).
-/

namespace HybridTls

open Json

/-! ### What is posted -/

/-- The body, before it is formatted into its buffer. -/
def Served.postText (s : Served) (o : ServerOptions) : Bytes :=
  lit "\x7b\"sample_id\":\"" ++ s.sampleId ++ lit "\",\"run_id\":\"" ++ s.runId ++
    lit "\",\"mode\":\"" ++ o.mode ++ lit "\",\"expected_group\":\"" ++ o.group ++
    lit "\",\"negotiated_group\":\"" ++ s.negotiatedGroup ++ lit "\",\"tls_version\":\"" ++
    s.tlsVersion ++ lit "\",\"cipher\":\"" ++ s.cipher ++ lit "\",\"server_handshake_us\":" ++
    decimal s.handshakeUs.toNat ++ lit "\x7d"

/-- `post_body`. -/
def Served.postBody (s : Served) (o : ServerOptions) : Bytes := snprintf 1200 (s.postText o)

/-- What is to be read. -/
def Served.postFields (s : Served) (o : ServerOptions) : List (Bytes × Json ℚ Bytes) :=
  [(lit "sample_id", .str s.sampleId), (lit "run_id", .str s.runId), (lit "mode", .str o.mode),
    (lit "expected_group", .str o.group), (lit "negotiated_group", .str s.negotiatedGroup),
    (lit "tls_version", .str s.tlsVersion), (lit "cipher", .str s.cipher),
    (lit "server_handshake_us", .num s.handshakeUs.toNat)]

/-- The members that the schema is given. -/
def ServerPost.members (p : ServerPost) : List (String × Json ℚ String) :=
  let string (s : Option String) : Json ℚ String := s.elim .null .str
  [("sample_id", .str p.sampleId), ("run_id", .str p.runId), ("mode", .str p.mode),
    ("expected_group", .str p.expectedGroup), ("negotiated_group", string p.negotiatedGroup),
    ("tls_version", string p.tlsVersion), ("cipher", string p.cipher),
    ("server_handshake_us", .num p.serverHandshakeUs)]

/-! ### What is asked of it -/

/-- **The values fit**: the identifiers are valid, and the names are no longer than the
buffers they have been copied into, and contain nothing that has to be escaped. -/
structure Served.Fits (s : Served) (o : ServerOptions) : Prop where
  sampleId : validIdentifier s.sampleId
  runId : validIdentifier s.runId
  mode : o.mode.length ≤ 11
  group : o.group.length ≤ 80
  negotiatedGroup : s.negotiatedGroup.length ≤ 99
  tlsVersion : s.tlsVersion.length ≤ 49
  cipher : s.cipher.length ≤ 119
  plain : PlainNames s o

/-- **The body can be read back.** -/
structure Served.RoundTrips (s : Served) (o : ServerOptions) : Prop where
  untruncated : s.postBody o = s.postText o
  fields : loads (s.postBody o) = some (.obj (s.postFields o))

/-! ### The text -/

/-- The members of the body, with the texts of their values. -/
def Served.postMemberTexts (s : Served) (o : ServerOptions) : List (Bytes × Bytes) :=
  [(lit "sample_id", quoted s.sampleId), (lit "run_id", quoted s.runId),
    (lit "mode", quoted o.mode), (lit "expected_group", quoted o.group),
    (lit "negotiated_group", quoted s.negotiatedGroup), (lit "tls_version", quoted s.tlsVersion),
    (lit "cipher", quoted s.cipher), (lit "server_handshake_us", decimal s.handshakeUs.toNat)]

/-- The members as they are spelled. -/
def Served.postReadMembers (s : Served) (o : ServerOptions) : List (Bytes × Read) :=
  [(lit "sample_id", .str s.sampleId), (lit "run_id", .str s.runId), (lit "mode", .str o.mode),
    (lit "expected_group", .str o.group), (lit "negotiated_group", .str s.negotiatedGroup),
    (lit "tls_version", .str s.tlsVersion), (lit "cipher", .str s.cipher),
    (lit "server_handshake_us", .num (decimal s.handshakeUs.toNat))]

section Text

variable {s : Served} {o : ServerOptions}

/-- **The body is the text of an object.** -/
theorem postText_eq (s : Served) (o : ServerOptions) :
    s.postText o = objectText (s.postMemberTexts o) := by
  have hopen : lit "\x7b\"sample_id\":\"" = 123 :: 34 :: (lit "sample_id" ++ [34, 58, 34]) := by
    decide +kernel
  -- behind a string its quote comes first
  have hstrings : ∀ name ∈ ["run_id", "mode", "expected_group", "negotiated_group",
      "tls_version", "cipher"],
      lit ("\",\"" ++ name ++ "\":\"") = 34 :: 44 :: 34 :: (lit name ++ [34, 58, 34]) := by
    decide +kernel
  have hus : lit "\",\"server_handshake_us\":" =
      34 :: 44 :: 34 :: (lit "server_handshake_us" ++ [34, 58]) := by
    decide +kernel
  have hclose : lit "\x7d" = [125] := by decide +kernel
  simp only [List.forall_mem_cons, String.reduceAppend] at hstrings
  obtain ⟨hrun, hmode, hexpected, hnegotiated, hversion, hcipher, -⟩ := hstrings
  simp only [Served.postText, Served.postMemberTexts, objectText, membersText, quoted, hopen, hrun,
    hmode, hexpected, hnegotiated, hversion, hcipher, hus, hclose, List.append_assoc,
    List.cons_append, List.nil_append]

/-- The longest values. -/
theorem length_postValues_le (h : s.Fits o) :
    List.Forall₂ (· ≤ ·) ((s.postMemberTexts o).map (·.2.length))
      [162, 162, 13, 82, 101, 51, 121, 20] :=
  .cons (length_quoted_le (validIdentifier_iff.mp h.sampleId).2.1) <|
    .cons (length_quoted_le (validIdentifier_iff.mp h.runId).2.1) <|
    .cons (length_quoted_le h.mode) <| .cons (length_quoted_le h.group) <|
    .cons (length_quoted_le h.negotiatedGroup) <| .cons (length_quoted_le h.tlsVersion) <|
    .cons (length_quoted_le h.cipher) <| .cons (length_decimal_toNat_le _) .nil

/-- **The longest body** fits. -/
theorem length_postText_lt (h : s.Fits o) : (s.postText o).length < 1200 := by
  have hnames : ((s.postMemberTexts o).map (·.1.length)).sum = 85 := by
    simp only [Served.postMemberTexts, List.map_cons, List.map_nil]
    decide +kernel
  have hvalues := (length_postValues_le h).sum_le_sum
  have hbounds : [162, 162, 13, 82, 101, 51, 121, 20].sum = 712 := by decide
  have hcount : (s.postMemberTexts o).length = 8 := rfl
  have hlength : (objectText (s.postMemberTexts o)).length =
      1 + ((s.postMemberTexts o).map (·.1.length)).sum +
        ((s.postMemberTexts o).map (·.2.length)).sum + 4 * (s.postMemberTexts o).length :=
    length_objectText (List.cons_ne_nil _ _)
  rw [postText_eq, hlength, hnames, hcount]
  omega

/-- **Every member is spelled as it should be.** -/
theorem spellsMembers_post (h : s.Fits o) :
    List.Forall₂ SpellsMember (s.postMemberTexts o) (s.postReadMembers o) := by
  have hplain : ∀ name ∈ (s.postMemberTexts o).map (·.1), ∀ b ∈ name, isPlain b := by
    simp only [Served.postMemberTexts, List.map_cons, List.map_nil]
    decide +kernel
  simp only [Served.postMemberTexts, List.map_cons, List.map_nil, List.forall_mem_cons] at hplain
  obtain ⟨h₁, h₂, h₃, h₄, h₅, h₆, h₇, h₈, -⟩ := hplain
  exact .cons ⟨rfl, h₁, spells_plain (isPlain_of_validIdentifier h.sampleId)⟩ <|
    .cons ⟨rfl, h₂, spells_plain (isPlain_of_validIdentifier h.runId)⟩ <|
    .cons ⟨rfl, h₃, spells_plain h.plain.mode⟩ <|
    .cons ⟨rfl, h₄, spells_plain h.plain.group⟩ <|
    .cons ⟨rfl, h₅, spells_plain h.plain.negotiatedGroup⟩ <|
    .cons ⟨rfl, h₆, spells_plain h.plain.tlsVersion⟩ <|
    .cons ⟨rfl, h₇, spells_plain h.plain.cipher⟩ <|
    .cons ⟨rfl, h₈, spells_decimal _⟩ .nil

theorem mapMembers_postReadMembers (h : s.Fits o) :
    mapMembers numberValue unescape (s.postReadMembers o) = s.postFields o := by
  have hnames : ∀ name ∈ (s.postMemberTexts o).map (·.1), unescape name = name := by
    simp only [Served.postMemberTexts, List.map_cons, List.map_nil]
    decide +kernel
  simp only [Served.postMemberTexts, List.map_cons, List.map_nil, List.forall_mem_cons] at hnames
  have hidentifier : ∀ v, validIdentifier v → unescape v = v := fun v hv =>
    unescape_of_plain (isPlain_of_validIdentifier hv)
  simp only [Served.postReadMembers, Served.postFields, mapMembers, Json.map, hnames,
    hidentifier _ h.sampleId, hidentifier _ h.runId, unescape_of_plain h.plain.mode,
    unescape_of_plain h.plain.group, unescape_of_plain h.plain.negotiatedGroup,
    unescape_of_plain h.plain.tlsVersion, unescape_of_plain h.plain.cipher, numberValue_decimal]

/-- A body whose values fit round-trips. -/
theorem Served.Fits.roundTrips (h : s.Fits o) : s.RoundTrips o where
  untruncated := snprintf_of_lt (length_postText_lt h)
  fields := by
    rw [Served.postBody, snprintf_of_lt (length_postText_lt h), postText_eq, loads,
      parse_objectText (spellsMembers_post h), Option.map_some, Json.map,
      mapMembers_postReadMembers h]

/-- **What is read is what the schema is given.** -/
theorem mapMembers_postFields (s : Served) (o : ServerOptions) :
    mapMembers id HybridTls.text (s.postFields o) = (s.post o).members := by
  have hnames : ∀ name ∈ ["sample_id", "run_id", "mode", "expected_group", "negotiated_group",
      "tls_version", "cipher", "server_handshake_us"], HybridTls.text (lit name) = name := by
    decide +kernel
  simp only [List.forall_mem_cons] at hnames
  simp only [Served.postFields, ServerPost.members, Served.post, mapMembers, Json.map, hnames,
    Option.elim_some, id_eq, Int.cast_natCast]

end Text

/-! ### What a connection posts -/

section Connection

variable {env : ServerEnv} {o : ServerOptions} {s : Served} {arguments : List Bytes}

/-- **What a connection records fits**, if the names that OpenSSL gives need no
escaping. -/
theorem fits_handleConnection (ho : parseServerOptions arguments = some o)
    (hs : handleConnection env = some s) (hrecord : s.recordSample) (hlength : o.group.length ≤ 80)
    (hgroup : ∀ b ∈ o.group, isPlain b) (hname : ∀ g ∈ env.groupName, ∀ b ∈ g, isPlain b)
    (hversion : ∀ b ∈ env.version, isPlain b) (hcipher : ∀ b ∈ env.cipherName, isPlain b) :
    s.Fits o := by
  have hplain := plainNames_of_handleConnection ho hs hgroup hname hversion hcipher
  obtain ⟨m, hm⟩ := validMode_of_parseServerOptions ho
  obtain ⟨received, -, rfl⟩ := handleConnection_eq_some hs
  obtain ⟨hsample, hrun⟩ := identify_valid hrecord
  exact {
    sampleId := hsample
    runId := hrun
    mode := hm ▸ length_mode_le m
    group := hlength
    negotiatedGroup := length_snprintf_le 100 _
    tlsVersion := length_snprintf_le 50 _
    cipher := length_snprintf_le 120 _
    plain := hplain }

/-- **The server's body round-trips**, whatever the peer has sent: if the sample is
recorded, the body is not cut off, it is well-formed, and what is read is what the schema
is given of the connection. -/
theorem postBody_roundTrips (ho : parseServerOptions arguments = some o)
    (hs : handleConnection env = some s) (hrecord : s.recordSample) (hlength : o.group.length ≤ 80)
    (hgroup : ∀ b ∈ o.group, isPlain b) (hname : ∀ g ∈ env.groupName, ∀ b ∈ g, isPlain b)
    (hversion : ∀ b ∈ env.version, isPlain b) (hcipher : ∀ b ∈ env.cipherName, isPlain b) :
    s.postBody o = s.postText o ∧
      (loads (s.postBody o)).map (Json.map id HybridTls.text) =
        some (.obj (s.post o).members) := by
  have hfits := fits_handleConnection ho hs hrecord hlength hgroup hname hversion hcipher
  refine ⟨hfits.roundTrips.untruncated, ?_⟩
  rw [hfits.roundTrips.fields, Option.map_some, Json.map, mapMembers_postFields]

/-- The longest identifiers, in a request that tries to say more. -/
theorem postBody_roundTrips_longest :
    ∃ s, handleConnection (ServerEnv.receiving 18446744073709551615
        (lit "GET /probe?sample_id=" ++ List.replicate 160 97 ++ lit "&run_id=" ++
          List.replicate 139 98 ++ lit "&record=1&run_id=c HTTP/1.1\r\n\r\n")) = some s ∧
      (loads (s.postBody .default)).map (Json.map id HybridTls.text) =
        some (.obj (s.post .default).members) := by
  have ho : parseServerOptions [] = some ServerOptions.default := by decide +kernel
  obtain ⟨s, hs⟩ : ∃ s, handleConnection (ServerEnv.receiving 18446744073709551615
      (lit "GET /probe?sample_id=" ++ List.replicate 160 97 ++ lit "&run_id=" ++
        List.replicate 139 98 ++ lit "&record=1&run_id=c HTTP/1.1\r\n\r\n")) = some s :=
    ⟨_, rfl⟩
  have hrecord : s.recordSample := by
    obtain ⟨_, ⟨⟩, rfl⟩ := handleConnection_eq_some hs
    decide +kernel
  have hname : ∀ g ∈ (ServerEnv.receiving 18446744073709551615
      (lit "GET /probe?sample_id=" ++ List.replicate 160 97 ++ lit "&run_id=" ++
        List.replicate 139 98 ++ lit "&record=1&run_id=c HTTP/1.1\r\n\r\n")).groupName,
      ∀ b ∈ g, isPlain b := by
    rintro _ ⟨⟩
    decide +kernel
  exact ⟨s, hs, (postBody_roundTrips ho hs hrecord (by decide +kernel) (by decide +kernel) hname
    (by decide +kernel) (by decide +kernel)).2⟩

end Connection

end HybridTls

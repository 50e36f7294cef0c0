import HybridTls.Tls.ClientBody
import HybridTls.Tls.Escaping

/-!
# The body that creates a run

What `main` of the benchmark client tells the dashboard about its run: an object with six
members, formatted into a buffer of 1400 bytes, with the version of OpenSSL escaped into
one of 500 bytes; and the path behind which the run is completed, in one of 300 bytes.

The version is the one text that is not the client's own, and it may be cut off. It is
never cut off inside an escape (`HybridTls.jsonEscape_eq_take`), so the body is well-formed
whatever the version is (`HybridTls.runJson_roundTrips`). Where it is cut off, what is left
is too long for the schema; so the dashboard accepts the run exactly if the whole version is
short enough, and the identifier too (`HybridTls.isSome_validate_runPost_iff`): the bounds on
the two numbers have been checked by `parse_options`.
-/

namespace HybridTls

open Json

/-! ### What is posted -/

/-- `%d`. -/
def signedDecimal (n : ℤ) : Bytes := (if n < 0 then lit "-" else []) ++ decimal n.natAbs

/-- The notes in the body. -/
def runNotes : Bytes :=
  lit "Rotating classical/hybrid/hybrid_p256 order; TLS 1.3; fresh full handshakes"

/-- `version_escaped`. -/
def versionEscaped (version : Bytes) : Bytes := jsonEscape version 500

/-- The body, before it is formatted into its buffer. -/
def ClientOptions.runText (options : ClientOptions) (version : Bytes) : Bytes :=
  lit "\x7b\"run_id\":\"" ++ options.runId ++
    lit "\",\"client_name\":\"openssl-c-client\",\"openssl_version\":\"" ++
    versionEscaped version ++ lit "\",\"iterations\":" ++ signedDecimal options.iterations ++
    lit ",\"warmup\":" ++ signedDecimal options.warmup ++ lit ",\"notes\":\"" ++ runNotes ++
    lit "\"\x7d"

/-- `run_json`. -/
def ClientOptions.runJson (options : ClientOptions) (version : Bytes) : Bytes :=
  snprintf 1400 (options.runText version)

/-- `complete_path`. -/
def ClientOptions.completePath (options : ClientOptions) : Bytes :=
  snprintf 300 (lit "/api/runs/" ++ options.runId ++ lit "/complete")

/-- The values in the body. -/
def ClientOptions.runPost (options : ClientOptions) (version : Bytes) : RunPost where
  runId := text options.runId
  clientName := some (some "openssl-c-client")
  opensslVersion := some (text (jsonUnescape (versionEscaped version)))
  iterations := some options.iterations
  warmup := some options.warmup
  notes := some (text runNotes)

/-- The members that the schema is given. -/
def RunPost.members (p : RunPost) : List (String × Json ℚ String) :=
  let string (s : Option String) : Json ℚ String := s.elim .null .str
  let number (n : Option ℤ) : Json ℚ String := n.elim .null fun n => .num n
  [("run_id", .str p.runId)] ++
    p.clientName.toList.map (fun name => ("client_name", string name)) ++
    [("openssl_version", string p.opensslVersion), ("iterations", number p.iterations),
      ("warmup", number p.warmup), ("notes", string p.notes)]

/-! ### The text -/

/-- The members of the body, with the texts of their values. -/
def ClientOptions.runMemberTexts (options : ClientOptions) (version : Bytes) :
    List (Bytes × Bytes) :=
  [(lit "run_id", quoted options.runId), (lit "client_name", quoted (lit "openssl-c-client")),
    (lit "openssl_version", quoted (versionEscaped version)),
    (lit "iterations", signedDecimal options.iterations),
    (lit "warmup", signedDecimal options.warmup), (lit "notes", quoted runNotes)]

/-- The members as they are spelled. -/
def ClientOptions.runReadMembers (options : ClientOptions) (version : Bytes) :
    List (Bytes × Read) :=
  [(lit "run_id", .str options.runId), (lit "client_name", .str (lit "openssl-c-client")),
    (lit "openssl_version", .str (versionEscaped version)),
    (lit "iterations", .num (decimal options.iterations.toNat)),
    (lit "warmup", .num (decimal options.warmup.toNat)), (lit "notes", .str runNotes)]

section Text

variable {options : ClientOptions} {version : Bytes}

/-- A number that is not negative has no sign. -/
theorem signedDecimal_of_nonneg {n : ℤ} (h : 0 ≤ n) : signedDecimal n = decimal n.toNat := by
  have hneg : ¬ n < 0 := by omega
  have habs : n.natAbs = n.toNat := by omega
  rw [signedDecimal, if_neg hneg, habs, List.nil_append]

/-- **The body is the text of an object.** -/
theorem runText_eq (options : ClientOptions) (version : Bytes) :
    options.runText version = objectText (options.runMemberTexts version) := by
  have hopen : lit "\x7b\"run_id\":\"" = 123 :: 34 :: (lit "run_id" ++ [34, 58, 34]) := by
    decide +kernel
  have hnames : lit "\",\"client_name\":\"openssl-c-client\",\"openssl_version\":\"" =
      34 :: 44 :: 34 :: (lit "client_name" ++ [34, 58, 34]) ++ (lit "openssl-c-client" ++
        34 :: 44 :: 34 :: (lit "openssl_version" ++ [34, 58, 34])) := by
    decide +kernel
  have hiterations : lit "\",\"iterations\":" =
      34 :: 44 :: 34 :: (lit "iterations" ++ [34, 58]) := by
    decide +kernel
  have hwarmup : lit ",\"warmup\":" = 44 :: 34 :: (lit "warmup" ++ [34, 58]) := by
    decide +kernel
  have hnotes : lit ",\"notes\":\"" = 44 :: 34 :: (lit "notes" ++ [34, 58, 34]) := by
    decide +kernel
  have hclose : lit "\"\x7d" = [34, 125] := by decide +kernel
  simp only [ClientOptions.runText, ClientOptions.runMemberTexts, objectText, membersText, quoted,
    hopen, hnames, hiterations, hwarmup, hnotes, hclose, List.append_assoc, List.cons_append,
    List.nil_append]

/-- Whatever the version is, it is escaped as far as there is room. -/
theorem length_versionEscaped_le (version : Bytes) : (versionEscaped version).length ≤ 499 := by
  have hlt := @length_jsonEscapeFrom_lt version 500 0 (by decide)
  rw [versionEscaped, jsonEscape]
  omega

/-- The longest values. -/
theorem length_runValues_le (h : options.Accepted) (version : Bytes) :
    List.Forall₂ (· ≤ ·) ((options.runMemberTexts version).map (·.2.length))
      [162, 18, 501, 7, 6, 77] := by
  have hname : (quoted (lit "openssl-c-client")).length ≤ 18 := by decide +kernel
  have hnotes : (quoted runNotes).length ≤ 77 := by decide +kernel
  have hiterations : (signedDecimal options.iterations).length ≤ 7 := by
    obtain ⟨hlo, hhi⟩ := h.iterations
    rw [signedDecimal_of_nonneg (by omega)]
    exact length_decimal_le (by decide) (by omega)
  have hwarmup : (signedDecimal options.warmup).length ≤ 6 := by
    obtain ⟨hlo, hhi⟩ := h.warmup
    rw [signedDecimal_of_nonneg hlo]
    exact length_decimal_le (by decide) (by omega)
  exact .cons (length_quoted_le (validIdentifier_iff.mp h.runId).2.1) <| .cons hname <|
    .cons (length_quoted_le (length_versionEscaped_le version)) <| .cons hiterations <|
    .cons hwarmup <| .cons hnotes .nil

/-- **The longest body** fits. -/
theorem length_runText_lt (h : options.Accepted) (version : Bytes) :
    (options.runText version).length < 1400 := by
  have hnames : ((options.runMemberTexts version).map (·.1.length)).sum = 53 := by
    simp only [ClientOptions.runMemberTexts, List.map_cons, List.map_nil]
    decide +kernel
  have hvalues := (length_runValues_le h version).sum_le_sum
  have hbounds : [162, 18, 501, 7, 6, 77].sum = 771 := by decide
  have hcount : (options.runMemberTexts version).length = 6 := rfl
  have hlength : (objectText (options.runMemberTexts version)).length =
      1 + ((options.runMemberTexts version).map (·.1.length)).sum +
        ((options.runMemberTexts version).map (·.2.length)).sum +
          4 * (options.runMemberTexts version).length :=
    length_objectText (List.cons_ne_nil _ _)
  rw [runText_eq, hlength, hnames, hcount]
  omega

/-- **Every member is spelled as it should be**, the version wherever it has been cut
off. -/
theorem spellsMembers_run (h : options.Accepted) (version : Bytes) :
    List.Forall₂ SpellsMember (options.runMemberTexts version)
      (options.runReadMembers version) := by
  have hplain : ∀ name ∈ (options.runMemberTexts version).map (·.1), ∀ b ∈ name, isPlain b := by
    simp only [ClientOptions.runMemberTexts, List.map_cons, List.map_nil]
    decide +kernel
  simp only [ClientOptions.runMemberTexts, List.map_cons, List.map_nil, List.forall_mem_cons]
    at hplain
  obtain ⟨h₁, h₂, h₃, h₄, h₅, h₆, -⟩ := hplain
  have hname : ∀ b ∈ lit "openssl-c-client", isPlain b := by decide +kernel
  have hnotes : ∀ b ∈ runNotes, isPlain b := by decide +kernel
  have hversion : Inside (versionEscaped version) := by
    obtain ⟨k, hk⟩ := jsonEscape_eq_take version 500
    rw [versionEscaped, hk]
    exact .flatMap fun b _ => inside_escapeByte b
  have hnumber : ∀ {n : ℤ}, 0 ≤ n → Spells (signedDecimal n) (.num (decimal n.toNat)) :=
    fun hn => by
      rw [signedDecimal_of_nonneg hn]
      exact spells_decimal _
  exact .cons ⟨rfl, h₁, spells_plain (isPlain_of_validIdentifier h.runId)⟩ <|
    .cons ⟨rfl, h₂, spells_plain hname⟩ <| .cons ⟨rfl, h₃, spells_quoted hversion⟩ <|
    .cons ⟨rfl, h₄, hnumber (by have := h.iterations.1; omega)⟩ <|
    .cons ⟨rfl, h₅, hnumber h.warmup.1⟩ <| .cons ⟨rfl, h₆, spells_plain hnotes⟩ .nil

/-- An escaped version is read alike by both readers. -/
theorem unescape_versionEscaped (version : Bytes) :
    unescape (versionEscaped version) = jsonUnescape (versionEscaped version) := by
  obtain ⟨k, hk⟩ := jsonEscape_eq_take version 500
  rw [versionEscaped, hk, jsonUnescape_flatMap]
  exact unescape_flatMap_escapeByte _

/-- **The members stand for the values that were given.** -/
theorem mapMembers_runReadMembers (h : options.Accepted) (version : Bytes) :
    mapMembers id HybridTls.text
        (mapMembers numberValue unescape (options.runReadMembers version)) =
      (options.runPost version).members := by
  have hnames : ∀ name ∈ ["run_id", "client_name", "openssl_version", "iterations", "warmup",
      "notes"], HybridTls.text (unescape (lit name)) = name := by
    decide +kernel
  simp only [List.forall_mem_cons] at hnames
  have hname : HybridTls.text (unescape (lit "openssl-c-client")) = "openssl-c-client" := by
    decide +kernel
  have hnotes : unescape runNotes = runNotes := by decide +kernel
  have hnumber : ∀ {n : ℤ}, 0 ≤ n → ((n.toNat : ℕ) : ℚ) = (n : ℚ) := fun {n} hn => by
    rw [← Int.cast_natCast, Int.toNat_of_nonneg hn]
  have hiterations := hnumber (show 0 ≤ options.iterations by have := h.iterations.1; omega)
  have hwarmup := hnumber h.warmup.1
  simp only [ClientOptions.runReadMembers, mapMembers, Json.map, hnames, hname, hnotes,
    unescape_of_plain (isPlain_of_validIdentifier h.runId), unescape_versionEscaped,
    numberValue_decimal, hiterations, hwarmup, RunPost.members, ClientOptions.runPost, id_eq,
    Option.elim_some, Option.toList_some, List.map_cons, List.map_nil, List.cons_append,
    List.nil_append]

/-- **The body that creates a run round-trips**, whatever OpenSSL calls its version. -/
theorem runJson_roundTrips (h : options.Accepted) (version : Bytes) :
    options.runJson version = options.runText version ∧
      (loads (options.runJson version)).map (Json.map id HybridTls.text) =
        some (.obj (options.runPost version).members) := by
  have hwhole : options.runJson version = options.runText version :=
    snprintf_of_lt (length_runText_lt h version)
  refine ⟨hwhole, ?_⟩
  rw [hwhole, runText_eq, loads, parse_objectText (spellsMembers_run h version)]
  simp only [Option.map_some, Json.map, mapMembers_runReadMembers h version]

end Text

/-! ### Which runs are accepted -/

section Accepted

variable {options : ClientOptions} {version input : Bytes}

/-- Where a string has been cut off, the buffer is as good as full. -/
theorem jsonEscapeFrom_whole_or_full (outputSize target : ℕ) (input : Bytes) :
    jsonEscapeFrom outputSize target input = input.flatMap escapeByte ∨
      outputSize ≤ target + (jsonEscapeFrom outputSize target input).length + 2 := by
  induction input generalizing target with
  | nil => exact Or.inl rfl
  | cons b input ih =>
    rw [jsonEscapeFrom]
    split
    · rcases ih (target + (escapeByte b).length) with hwhole | hfull
      · exact Or.inl (by rw [hwhole, List.flatMap_cons])
      · rw [List.length_append]
        exact Or.inr (by omega)
    next hroom => exact Or.inr (by rw [List.length_nil]; omega)

/-- What is left of a string is at least half as long as what is written for it. -/
theorem length_flatMap_escapeByte_le_sanitized (input : Bytes) :
    (input.flatMap escapeByte).length ≤ 2 * (input.flatMap sanitizeByte).length := by
  have hbyte : ∀ b, (escapeByte b).length ≤ 2 * (sanitizeByte b).length :=
    forall_byte (by decide +kernel)
  induction input with
  | nil => simp
  | cons b input ih =>
    have hb := hbyte b
    simp only [List.flatMap_cons, List.length_append]
    omega

/-- **What has been cut off would have been too long anyway.** -/
theorem length_version_le_iff (version : Bytes) :
    (jsonUnescape (versionEscaped version)).length ≤ 240 ↔
      (version.flatMap sanitizeByte).length ≤ 240 := by
  obtain ⟨k, hk⟩ := jsonEscape_eq_take version 500
  have hread : jsonUnescape (versionEscaped version) = (version.take k).flatMap sanitizeByte := by
    rw [versionEscaped, hk, jsonUnescape_flatMap]
  rcases jsonEscapeFrom_whole_or_full 500 0 version with hwhole | hfull
  · have hall : jsonUnescape (versionEscaped version) = version.flatMap sanitizeByte := by
      rw [versionEscaped, jsonEscape, hwhole, jsonUnescape_flatMap]
    rw [hall]
  · -- half of what is written is more than the schema admits
    have hhalf := length_flatMap_escapeByte_le_sanitized (version.take k)
    have hlong : 498 ≤ ((version.take k).flatMap escapeByte).length := by
      rw [← hk, jsonEscape]
      omega
    have hmore : ((version.take k).flatMap sanitizeByte).length ≤
        (version.flatMap sanitizeByte).length := by
      conv_rhs => rw [← List.take_append_drop k version, List.flatMap_append, List.length_append]
      exact Nat.le_add_right _ _
    rw [hread]
    exact iff_of_false (by omega) (by omega)

/-- What `RunCreate` checks of a run post with a client name. -/
theorem RunCreate.isSome_validate_iff {p : RunPost} {name : String}
    (hname : p.clientName = some (some name)) :
    (RunCreate.validate p.dump).isSome ↔ IsIdentifier 120 p.runId ∧ HasLength 0 120 name ∧
      (∀ v ∈ p.opensslVersion, HasLength 0 240 v) ∧
      (∀ n ∈ p.iterations, InRange 1 (some 1000000) n) ∧
      (∀ n ∈ p.warmup, InRange 0 (some 100000) n) ∧ ∀ s ∈ p.notes, HasLength 0 500 s := by
  simp only [RunCreate.validate, RunPost.dump, hname, Option.getD_some, Option.bind_eq_bind,
    Option.bind_some, Option.isSome_iff_exists, Option.bind_eq_some_iff, check_eq_some_iff,
    checkOptional_eq_some_iff, Option.pure_def, Option.some.injEq, ← exists_checked_iff]
  constructor
  · rintro ⟨_, x, hx, y, hy, v, hv, n, hn, w, hw, s, hs, rfl⟩
    exact ⟨hx ▸ x.2, hy ▸ y.2, ⟨v, hv⟩, ⟨n, hn⟩, ⟨w, hw⟩, ⟨s, hs⟩⟩
  · rintro ⟨hx, hy, ⟨v, hv⟩, ⟨n, hn⟩, ⟨w, hw⟩, ⟨s, hs⟩⟩
    exact ⟨_, ⟨_, hx⟩, rfl, ⟨_, hy⟩, rfl, v, hv, n, hn, w, hw, s, hs, rfl⟩

/-- **Which runs the dashboard accepts** of those that `parse_options` does: the ones with
an identifier of at most 120 characters, if OpenSSL's version has at most 240. -/
theorem isSome_validate_runPost_iff (h : options.Accepted) (version : Bytes) :
    (RunCreate.validate (options.runPost version).dump).isSome ↔
      options.runId.length ≤ 120 ∧ (version.flatMap sanitizeByte).length ≤ 240 := by
  have hid : IsIdentifier 120 (text options.runId) ↔ options.runId.length ≤ 120 := by
    obtain ⟨hpos, -, hall⟩ := validIdentifier_iff.mp h.runId
    rw [isIdentifier_text_iff]
    exact ⟨fun h => h.2.1, fun hlen => ⟨hpos, hlen, hall⟩⟩
  have hversion : (∀ v ∈ (options.runPost version).opensslVersion, HasLength 0 240 v) ↔
      (version.flatMap sanitizeByte).length ≤ 240 := by
    rw [← length_version_le_iff]
    simp only [ClientOptions.runPost, Option.mem_some_iff, forall_eq', HasLength, length_text,
      Nat.zero_le, true_and]
  have hiterations : ∀ n ∈ (options.runPost version).iterations, InRange 1 (some 1000000) n := by
    rintro _ ⟨⟩
    exact ⟨h.iterations.1, by simpa using h.iterations.2⟩
  have hwarmup : ∀ n ∈ (options.runPost version).warmup, InRange 0 (some 100000) n := by
    rintro _ ⟨⟩
    exact ⟨h.warmup.1, by simpa using h.warmup.2⟩
  have hnotes : ∀ s ∈ (options.runPost version).notes, HasLength 0 500 s := by
    rintro _ ⟨⟩
    decide +kernel
  have hname : HasLength 0 120 "openssl-c-client" := by decide
  have hrunId : IsIdentifier 120 (options.runPost version).runId ↔ options.runId.length ≤ 120 :=
    hid
  rw [RunCreate.isSome_validate_iff rfl, hrunId, hversion]
  tauto

/-- **The path is not cut off.** -/
theorem completePath_eq (h : options.Accepted) :
    options.completePath = lit "/api/runs/" ++ options.runId ++ lit "/complete" := by
  have hlen := (validIdentifier_iff.mp h.runId).2.1
  have h₁ : (lit "/api/runs/").length = 10 := by decide
  have h₂ : (lit "/complete").length = 9 := by decide
  refine snprintf_of_lt ?_
  simp only [List.length_append, h₁, h₂]
  omega

/-- **The post that creates a run**, whatever is given on the command line and whatever
OpenSSL calls its version: nothing of the body is cut off but the version, it is read as what
the schema is given, and it is accepted exactly if the identifier and the whole version are
short enough. The run that is completed is the one that was created. -/
theorem runPost_accepted {generatedRunId : Bytes} {arguments : List Bytes}
    (h : parseOptions generatedRunId arguments = some options) (version : Bytes) :
    options.runJson version = options.runText version ∧
      (loads (options.runJson version)).map (Json.map id HybridTls.text) =
        some (.obj (options.runPost version).members) ∧
      ((RunCreate.validate (options.runPost version).dump).isSome ↔
        options.runId.length ≤ 120 ∧ (version.flatMap sanitizeByte).length ≤ 240) ∧
      options.completePath = lit "/api/runs/" ++ options.runId ++ lit "/complete" := by
  have haccepted := accepted_of_parseOptions h
  obtain ⟨hwhole, hread⟩ := runJson_roundTrips haccepted version
  exact ⟨hwhole, hread, isSome_validate_runPost_iff haccepted version,
    completePath_eq haccepted⟩

/-- An identifier that `parse_options` accepts, and the dashboard does not. -/
theorem runPost_accepted_long :
    ∃ options, parseOptions [] [lit "--run-id", List.replicate 121 97] = some options ∧
      ¬ (RunCreate.validate (options.runPost (lit "OpenSSL \"3.5\"")).dump).isSome := by
  obtain ⟨options, hparse⟩ : ∃ options,
      parseOptions [] [lit "--run-id", List.replicate 121 97] = some options :=
    Option.isSome_iff_exists.mp (by decide +kernel)
  have hlength : options.runId.length = 121 := by
    have h : (parseOptions [] [lit "--run-id", List.replicate 121 97]).map (·.runId.length) =
        some 121 := by decide +kernel
    rw [hparse] at h
    exact Option.some.inj h
  refine ⟨options, hparse, fun hsome => ?_⟩
  have hle := ((runPost_accepted hparse _).2.2.1.mp hsome).1
  omega

end Accepted

end HybridTls

import HybridTls.Lib.Binary64
import HybridTls.Posture.Certs
import HybridTls.Posture.Vendors
import Mathlib.Data.List.Sort

/-!
# Risk scores

`load_scored`, which scores every vendor and ranks them, and `score_summary`.

What is scored of a vendor are four findings. Where the scan output has them they
are taken from there; otherwise they are read back from the texts that
`load_vendors` has made of the cells, by a predicate of its own (`HybridTls.yes`).
That predicate knows `Yes`, but not `Yes` with a label, and so the post-quantum
finding is lost where a label is shown (`HybridTls.posture_seen_iff`).

How much work a vendor takes is decided on three of the findings
(`HybridTls.effort`), and the tier on four. So there are vendors in the third tier
that take no work: those with nothing but a weak cipher
(`HybridTls.effort_tier_iff`).
-/

namespace HybridTls

open Python Raising

/-! ### Scores -/

/-- What `load_hndl_inputs` returns of a target, as far as it is scored. -/
structure HndlInput where
  dataSensitivity : String
  retentionYears : Option ℕ
  deriving DecidableEq, Repr

/-- `_yes`, of a text. -/
def yes (v : String) : Bool := ["yes", "true", "1", "y"].contains (lower (strip v))

/-- `_f1`: the points and the reason. -/
def f1 (tls13 pqc : Bool) : ℕ × String :=
  if !tls13 then (40, "No TLS 1.3 - cannot negotiate a hybrid group")
  else if pqc then (5, "Hybrid ML-KEM negotiated")
  else (38, "TLS 1.3, classical key exchange only")

/-- `value.upper()`: only texts have the method. -/
def Doc.upper : Doc → Py String
  | .str s => .ok (Python.upper s)
  | _ => .error .attributeError

/-- `value.lower()`. -/
def Doc.lower : Doc → Py String
  | .str s => .ok (Python.lower s)
  | _ => .error .attributeError

/-- `_f2`. No row has a `certkey`. -/
def f2 (certKey certSigAlg : Doc) : Py (ℕ × String) := do
  let cert ← ((certKey.orElse .null).orElse (.str "")).upper
  let sig ← (certSigAlg.orElse (.str "")).lower
  if contains sig "dilithium" || contains sig "ml-dsa" || contains sig "mldsa" then
    return (3, "Post-quantum certificate signature")
  if startsWith cert "EC" || contains sig "ecdsa" then
    return (30, "ECDSA signature - forgeable by Shor")
  return (35, "RSA signature - forgeable by Shor")

/-- The reason that names the retention. -/
def retentionText (sens : String) (years : ℕ) (rest : String) : String :=
  sens ++ ", " ++ toString years ++ "y" ++ rest

/-- `_f3`. -/
def f3 (years : Option ℕ) (sens : String) : ℕ × String :=
  match years with
  | none => (25, "Unclassified - scored at the highest retention tier")
  | some years =>
    if years ≥ 25 then (25, retentionText sens years " retention")
    else if years ≥ 15 then (22, retentionText sens years " retention")
    else if years ≥ 8 then (18, retentionText sens years " retention")
    else (10, retentionText sens years " - closes before the threat window")

/-- The penalty. -/
def penalty (staticRsa : Bool) : ℕ × String :=
  if staticRsa then (10, "Static RSA accepted - no forward secrecy") else (0, "")

/-- `_effort`. -/
def effort (tls13 pqc staticRsa : Bool) : ℕ × String :=
  if !tls13 then (3, "No TLS 1.3 - protocol modernisation")
  else if !pqc then (2, "Classical key exchange - enable a hybrid group")
  else if staticRsa then (1, "Static RSA accepted - configuration change")
  else (0, "No action available - post-quantum certificate not yet deployable")

/-- An entry of `BANDS`. -/
structure Band where
  code : String
  lo : ℕ
  hi : ℕ
  label : String
  deriving DecidableEq, Repr

/-- `BANDS`. -/
def bands : List Band :=
  [⟨"critical", 90, 100, "Critical"⟩, ⟨"high", 63, 89, "High"⟩, ⟨"moderate", 0, 62, "Moderate"⟩]

/-- `_band`. -/
def band (total : ℕ) : String × String :=
  match bands.find? fun b => b.lo ≤ total && total ≤ b.hi with
  | some b => (b.code, b.label)
  | none => ("moderate", "Moderate")

/-- `round(total / effort, 1)`, where there is something to divide by. -/
def ratio (total effort : ℕ) : ℚ :=
  if effort ≠ 0 then
    Binary64.fl (Binary64.roundEven (Binary64.fl ((total : ℚ) / effort) * 10) / 10)
  else 0

/-! ### Rows -/

/-- A row that `load_scored` returns. -/
structure ScoredRow where
  vendor : String
  curves : String
  tier : Tier
  scan : Option CertRecord
  tls13 : Bool
  pqc : Bool
  staticRsa : Bool
  weakCipher : Bool
  target : String
  f1 : ℕ
  f1r : String
  f2 : ℕ
  f2r : String
  f3 : ℕ
  f3r : String
  pen : ℕ
  penr : String
  total : ℕ
  bandCode : String
  bandLabel : String
  effort : ℕ
  effortReason : String
  ratio : ℚ
  retentionYears : Option ℕ
  dataSensitivity : String

/-- The truth value of a finding, unless it is `None`. -/
def Doc.finding : Doc → Option Bool
  | .null => none
  | d => some d.truthy

/-- A finding: what the scan says, or what the row shows. -/
def found (scanned : Option Doc) (shown : String) : Bool :=
  (scanned.bind Doc.finding).getD (yes shown)

/-- The body of the loop of `load_scored`, of the entry of the cache and the input
that belong to the row. -/
def scoreVendor (scan : Option CertRecord) (stub : Option HndlInput) (row : Vendor) :
    Py ScoredRow := do
  let tls13 := found (scan.map (·.tls13)) row.tls13
  let pqc := found (scan.map (·.pqc)) row.pqc
  let staticRsa := found (scan.map (·.srsa)) row.staticRsa
  let years := stub.bind (·.retentionYears)
  let stubSens := (stub.map (·.dataSensitivity)).getD ""
  let sens := if stubSens = "" then "unclassified" else stubSens
  let s1 := f1 tls13 pqc
  let s2 ← f2 ((scan.map (·.certKey)).getD .null) ((scan.map (·.certSigAlg)).getD .null)
  let s3 := f3 years sens
  let pen := penalty staticRsa
  let total := min 100 (s1.1 + s2.1 + s3.1 + pen.1)
  let eff := effort tls13 pqc staticRsa
  return {
    vendor := row.vendor
    curves := row.curves
    tier := row.tier
    scan := scan
    tls13 := tls13
    pqc := pqc
    staticRsa := staticRsa
    weakCipher := yes row.weakCipher
    target := row.vendor
    f1 := s1.1
    f1r := s1.2
    f2 := s2.1
    f2r := s2.2
    f3 := s3.1
    f3r := s3.2
    pen := pen.1
    penr := pen.2
    total := total
    bandCode := (band total).1
    bandLabel := (band total).2
    effort := eff.1
    effortReason := eff.2
    ratio := ratio total eff.1
    retentionYears := years
    dataSensitivity := sens }

/-- The body of the loop of `load_scored`. The rows of `load_vendors` have no `target`. -/
def scoreRow (scanFile full : ScanFile) (hndl : Dict String HndlInput) (row : Vendor) :
    EStateM Exn (Option CertMap) ScoredRow := do
  let scans ← certs scanFile full
  ofExcept (scoreVendor (scans.lookup (.text row.vendor)) (hndl.lookup row.vendor) row)

/-- The ranking: by the total, and otherwise in the order of the records. -/
def ranked (out : List ScoredRow) : List ScoredRow :=
  out.insertionSort fun r r' => r'.total ≤ r.total

/-- `load_scored`, of the records of `vendors.csv`, the files of the scan output and the
inputs of `load_hndl_inputs`. -/
def loadScored (rows : List VendorRecord) (scanFile full : ScanFile)
    (hndl : Dict String HndlInput) : EStateM Exn (Option CertMap) (List ScoredRow) := do
  let vendors ← ofExcept (loadVendors rows)
  return ranked (← vendors.mapM (scoreRow scanFile full hndl))

/-- `remediable`. -/
def remediable (rows : List ScoredRow) : List ScoredRow := rows.filter (0 < ·.effort)

/-- What `score_summary` returns. -/
structure ScoreSummary where
  n : ℕ
  critical : ℕ
  high : ℕ
  moderate : ℕ
  avg : ℤ
  min : ℕ
  max : ℕ
  pqReady : ℕ
  pqCert : ℕ
  staticRsa : ℕ
  remediable : ℕ
  noAction : ℕ
  bands : List (Band × ℕ)
  deriving DecidableEq, Repr

/-- How many rows are in a band. -/
def bandCount (rows : List ScoredRow) (code : String) : ℕ := rows.countP (·.bandCode = code)

/-- `score_summary`. -/
def scoreSummary (rows : List ScoredRow) : ScoreSummary where
  n := rows.length
  critical := bandCount rows "critical"
  high := bandCount rows "high"
  moderate := bandCount rows "moderate"
  avg :=
    let n := if rows.length = 0 then 1 else rows.length
    Binary64.roundEven (Binary64.fl (((rows.map (·.total)).sum : ℕ) / n : ℚ))
  min := ((rows.map (·.total)).min?).getD 0
  max := ((rows.map (·.total)).max?).getD 0
  pqReady := rows.countP (·.pqc)
  pqCert := rows.countP (·.f2 ≤ 3)
  staticRsa := rows.countP (·.staticRsa)
  remediable := (HybridTls.remediable rows).length
  noAction := rows.length - (HybridTls.remediable rows).length
  bands := bands.map fun b => (b, bandCount rows b.code)

/-! ### A run -/

section Run

variable {rows : List VendorRecord} {scanFile full : ScanFile} {hndl : Dict String HndlInput}
  {cache cache' cache'' : Option CertMap} {scans : CertMap} {out : List ScoredRow}

/-- **The run**: every row is scored with the same map, the one the first call of
`_certs` returns. -/
theorem scoreRows_eq_ok {vendors : List Vendor}
    (hcerts : certs scanFile full cache = .ok scans cache')
    (h : vendors.mapM (scoreRow scanFile full hndl) cache = .ok out cache'') :
    List.Forall₂ (fun v r =>
      scoreVendor (scans.lookup (.text v.vendor)) (hndl.lookup v.vendor) v = .ok r)
      vendors out := by
  induction vendors generalizing cache cache' out with
  | nil =>
    obtain ⟨rfl, -⟩ := pure_eq_ok.mp h
    exact .nil
  | cons v vendors ih =>
    rw [List.mapM_cons] at h
    obtain ⟨r, s₁, hrow, h⟩ := Raising.bind_eq_ok.mp h
    obtain ⟨out', s₂, hrest, h⟩ := Raising.bind_eq_ok.mp h
    obtain ⟨rfl, rfl⟩ := Raising.pure_eq_ok.mp h
    obtain ⟨scans', s₃, hcerts', hscore⟩ := Raising.bind_eq_ok.mp hrow
    obtain ⟨hr, rfl⟩ := ofExcept_eq_ok.mp hscore
    obtain ⟨rfl, rfl⟩ : scans' = scans ∧ s₃ = cache' := by
      rw [hcerts] at hcerts'
      cases hcerts'
      exact ⟨rfl, rfl⟩
    -- behind the first row the cache is there
    obtain rfl := certs_eq_ok hcerts
    exact .cons hr (ih Memo.memo_some hrest)

/-- The name under which a record is looked up. -/
def VendorRecord.name (row : VendorRecord) : String := strip (row.vendor.getD "")

theorem loadVendor_name {row : VendorRecord} {v : Vendor} (h : loadVendor row = .ok v) :
    v.vendor = row.name := by
  obtain ⟨name, hname, hvendor⟩ := (loadVendor_eq_ok h).1
  rw [hvendor, VendorRecord.name, hname, Option.getD_some]

/-- **What `load_scored` returns**: a row for each record, ranked. -/
theorem loadScored_eq_ok (hcerts : certs scanFile full cache = .ok scans cache')
    (h : loadScored rows scanFile full hndl cache = .ok out cache'') :
    ∃ scored, out = ranked scored ∧ List.Forall₂ (fun row r => ∃ v, loadVendor row = .ok v ∧
      scoreVendor (scans.lookup (.text row.name)) (hndl.lookup row.name) v = .ok r)
      rows scored := by
  obtain ⟨vendors, s₁, hvendors, h⟩ := Raising.bind_eq_ok.mp h
  obtain ⟨hload, rfl⟩ := ofExcept_eq_ok.mp hvendors
  obtain ⟨scored, s₂, hscored, h⟩ := Raising.bind_eq_ok.mp h
  obtain ⟨rfl, -⟩ := Raising.pure_eq_ok.mp h
  refine ⟨scored, rfl, ?_⟩
  refine (forall₂_trans (mapM_eq_ok.mp hload) (scoreRows_eq_ok hcerts hscored)).imp ?_
  rintro row r ⟨v, hv, hr⟩
  exact ⟨v, hv, loadVendor_name hv ▸ hr⟩

end Run

/-! ### When a run returns -/

/-- The cells of a certificate are texts. -/
structure CertRecord.Textual (c : CertRecord) : Prop where
  certKey : ∃ s, c.certKey = .str s
  certSigAlg : ∃ s, c.certSigAlg = .str s

section Returns

variable {rows : List VendorRecord} {scanFile full : ScanFile} {hndl : Dict String HndlInput}
  {cache cache' : Option CertMap} {scans : CertMap}

/-- The score of a certificate whose cells are texts once the defaults are there. -/
theorem exists_f2 {certKey certSigAlg : Doc} (cert sig : String)
    (hcert : (certKey.orElse .null).orElse (.str "") = .str cert)
    (hsig : certSigAlg.orElse (.str "") = .str sig) : ∃ s2, f2 certKey certSigAlg = .ok s2 := by
  rw [f2, hcert, hsig]
  simp only [Doc.upper, Doc.lower, Python.bind_eq_ok, Except.ok.injEq, exists_eq_left']
  split
  · exact ⟨_, rfl⟩
  · split
    · exact ⟨_, rfl⟩
    · exact ⟨_, rfl⟩

/-- A vendor is scored if the cells of its certificate, if it has one, are texts. -/
theorem exists_scoreVendor {scan : Option CertRecord} {stub : Option HndlInput} {v : Vendor}
    (h : ∀ c ∈ scan, c.Textual) : ∃ r, scoreVendor scan stub v = .ok r := by
  obtain ⟨s2, hs2⟩ : ∃ s2, f2 ((scan.map (·.certKey)).getD .null)
      ((scan.map (·.certSigAlg)).getD .null) = .ok s2 := by
    cases scan with
    | none => exact exists_f2 "" "" rfl rfl
    | some c =>
      obtain ⟨⟨cert, hcert⟩, sig, hsig⟩ := h c rfl
      rw [Option.map_some, Option.map_some, Option.getD_some, Option.getD_some, hcert, hsig]
      by_cases hempty : cert = ""
      · exact exists_f2 "" sig (by simp [Doc.orElse, Doc.truthy, hempty])
          (by simp [Doc.orElse, Doc.truthy])
      · exact exists_f2 cert sig (by simp [Doc.orElse, Doc.truthy, hempty])
          (by simp [Doc.orElse, Doc.truthy])
  simp only [scoreVendor, hs2, Python.bind_eq_ok, Python.pure_eq_ok]
  exact ⟨_, s2, rfl, rfl⟩

/-- **`load_scored` returns** if `_certs` does, no cell is missing, and the cells of
the certificates that belong to the records are texts. -/
theorem loadScored_returns (hcerts : certs scanFile full cache = .ok scans cache')
    (hrows : ∀ row ∈ rows, row.Filled)
    (htext : ∀ row ∈ rows, ∀ c ∈ scans.lookup (.text row.name), c.Textual) :
    ∃ out cache'', loadScored rows scanFile full hndl cache = .ok out cache'' := by
  obtain ⟨vendors, hvendors⟩ := exists_mapM fun row hrow => exists_loadVendor (hrows row hrow)
  suffices h : ∃ scored cache'', vendors.mapM (scoreRow scanFile full hndl) cache =
      .ok scored cache'' by
    obtain ⟨scored, cache'', hscored⟩ := h
    exact ⟨ranked scored, cache'', Raising.bind_eq_ok.mpr ⟨vendors, cache,
      ofExcept_eq_ok.mpr ⟨hvendors, rfl⟩, Raising.bind_eq_ok.mpr ⟨scored, cache'', hscored, rfl⟩⟩⟩
  clear hrows
  induction mapM_eq_ok.mp hvendors generalizing cache cache' with
  | nil => exact ⟨[], cache, rfl⟩
  | @cons row v rows vendors hv hrest ih =>
    obtain ⟨r, hr⟩ : ∃ r, scoreVendor (scans.lookup (.text v.vendor)) (hndl.lookup v.vendor) v =
        .ok r := by
      rw [loadVendor_name hv]
      exact exists_scoreVendor (htext row List.mem_cons_self)
    obtain rfl := certs_eq_ok hcerts
    obtain ⟨scored, cache'', hscored⟩ := ih Memo.memo_some
      (fun row' h => htext row' (List.mem_cons_of_mem _ h)) (mapM_eq_ok.mpr hrest)
    rw [List.mapM_cons]
    exact ⟨r :: scored, cache'', Raising.bind_eq_ok.mpr ⟨r, some scans, Raising.bind_eq_ok.mpr
      ⟨scans, some scans, hcerts, ofExcept_eq_ok.mpr ⟨hr, rfl⟩⟩, Raising.bind_eq_ok.mpr
        ⟨scored, cache'', hscored, rfl⟩⟩⟩

end Returns

/-! ### Findings -/

section Findings

variable {row : VendorRecord} {v : Vendor} {r : ScoredRow} {scan : Option CertRecord}
  {stub : Option HndlInput}

@[simp] theorem found_none (shown : String) : found none shown = yes shown := by
  simp [found]

/-- What is scored of a vendor. -/
theorem scoreVendor_eq_ok (h : scoreVendor scan stub v = .ok r) :
    (r.tls13 = found (scan.map (·.tls13)) v.tls13 ∧ r.pqc = found (scan.map (·.pqc)) v.pqc ∧
        r.staticRsa = found (scan.map (·.srsa)) v.staticRsa ∧ r.weakCipher = yes v.weakCipher) ∧
      r.target = v.vendor ∧ r.f1 = (f1 r.tls13 r.pqc).1 ∧ r.pen = (penalty r.staticRsa).1 ∧
        r.effort = (effort r.tls13 r.pqc r.staticRsa).1 := by
  simp only [scoreVendor, Python.bind_eq_ok, Python.pure_eq_ok, Except.ok.injEq] at h
  obtain ⟨s2, -, rfl⟩ := h
  dsimp only
  exact ⟨⟨rfl, rfl, rfl, rfl⟩, rfl, rfl, rfl, rfl⟩

/-- `Yes` and `No` are read back. -/
@[simp] theorem yes_yesNo (b : Bool) : yes (yesNo b) = b := by
  cases b <;> decide +kernel

/-- `Yes` with a label is not. -/
theorem yes_yesWith (label : String) : yes (yesWith label) = false := by
  have htext : (yesWith label).toList = "Yes (".toList ++ (label.toList ++ [')']) := by
    simp [yesWith]
  have hstrip : strip (yesWith label) = yesWith label := by
    refine strip_eq_self (fun c hc => ?_) (fun c hc => ?_)
    · obtain rfl : 'Y' = c := by simpa [htext] using hc
      decide
    · rw [htext, ← List.append_assoc, List.getLast?_concat] at hc
      obtain rfl := Option.some.inj hc
      decide
  -- none of the texts it is compared with has a parenthesis
  have hparen : '(' ∈ (lower (yesWith label)).toList := by
    rw [lower, String.toList_ofList, htext, List.flatMap_append, List.mem_append]
    exact Or.inl (by decide)
  rw [yes, hstrip, List.contains_eq_mem, decide_eq_false_iff_not]
  intro hmem
  simp only [List.mem_cons, List.not_mem_nil, or_false] at hmem
  rcases hmem with h | h | h | h <;> rw [h] at hparen <;> revert hparen <;> decide

/-- A record whose post-quantum cell, if it says yes, is shown without a label. -/
def VendorRecord.Unlabelled (row : VendorRecord) : Prop :=
  yn row.pqc → yesLabel (strip (row.pqc.getD "")) = none ∧ strip (row.pqcProvider.getD "") = ""

/-- **The post-quantum column is read back where it has no label.** -/
theorem yes_pqcDisplay_iff :
    yes (pqcDisplay row.pqc row.pqcProvider) = yn row.pqc ↔ row.Unlabelled := by
  simp only [VendorRecord.Unlabelled, pqcDisplay, yn_strip, yn_getD]
  cases yn row.pqc with
  | false =>
    have hno : yes "No" = false := yes_yesNo false
    simp [hno]
  | true =>
    simp only [Bool.not_true, Bool.false_eq_true, if_false, forall_const]
    cases yesLabel (strip (row.pqc.getD "")) with
    | some label => simp [yes_yesWith]
    | none =>
      by_cases hprovider : strip (row.pqcProvider.getD "") = ""
      · have hyes : yes "Yes" = true := yes_yesNo true
        simp [hprovider, hyes]
      · simp [hprovider, yes_yesWith]

/-- Scoring sees what the cells say, and a record in the first tier has the score that
goes with it. -/
structure SeesPosture (row : VendorRecord) (r : ScoredRow) : Prop where
  tls13 : r.tls13 = yn row.tls13
  pqc : r.pqc = yn row.pqc
  staticRsa : r.staticRsa = yn row.staticRsa
  weakCipher : r.weakCipher = yn row.weakCipher
  tier1 : deriveTier row = .tier1 → r.f1 = 5 ∧ r.pen = 0

/-- Without an entry in the scan output, it sees everything but a label. -/
theorem seesPosture_iff (hv : loadVendor row = .ok v) (hr : scoreVendor none stub v = .ok r) :
    SeesPosture row r ↔ row.Unlabelled := by
  obtain ⟨-, htls, hpqc, hstatic, hweak, -⟩ := loadVendor_eq_ok hv
  obtain ⟨⟨rtls, rpqc, rstatic, rweak⟩, -, rf1, rpen, -⟩ := scoreVendor_eq_ok hr
  simp only [Option.map_none, found_none, htls, hpqc, hstatic, hweak, yes_yesNo]
    at rtls rpqc rstatic rweak
  rw [← yes_pqcDisplay_iff, ← rpqc]
  refine ⟨SeesPosture.pqc, fun hsees => ⟨rtls, hsees, rstatic, rweak, fun htier => ?_⟩⟩
  obtain ⟨h₁, h₂, h₃, -⟩ := (deriveTier_cases row).2.mp htier
  rw [rf1, rpen, rtls, hsees, rstatic, h₁, h₂, h₃]
  exact ⟨rfl, rfl⟩

end Findings

/-- **When scoring sees the posture that the tier is derived from.** Of a record
without an entry in the scan output, the findings scored are those of the cells exactly
when its post-quantum cell, if it says yes, is shown without a label. -/
theorem posture_seen_iff {rows : List VendorRecord} {scanFile full : ScanFile}
    {hndl : Dict String HndlInput} {cache cache' cache'' : Option CertMap} {scans : CertMap}
    {out : List ScoredRow} (hcerts : certs scanFile full cache = .ok scans cache')
    (h : loadScored rows scanFile full hndl cache = .ok out cache'') :
    ∃ scored, out = ranked scored ∧ List.Forall₂ (fun row r => r.target = row.name ∧
      (scans.lookup (.text row.name) = none → (SeesPosture row r ↔ row.Unlabelled)))
      rows scored := by
  obtain ⟨scored, rfl, hrows⟩ := loadScored_eq_ok hcerts h
  refine ⟨scored, rfl, hrows.imp ?_⟩
  rintro row r ⟨v, hv, hr⟩
  exact ⟨(scoreVendor_eq_ok hr).2.1.trans (loadVendor_name hv),
    fun hnone => seesPosture_iff hv (hnone ▸ hr)⟩

/-- A record of a vendor that has migrated; its post-quantum cell and the provider vary. -/
def migrated (pqc provider : String) : VendorRecord :=
  ⟨some "Bank", some "Yes", some pqc, some provider, some "No", some "No", some "X25519MLKEM768"⟩

theorem filled_migrated (pqc provider : String) : (migrated pqc provider).Filled :=
  ⟨rfl, rfl, rfl, rfl, rfl, rfl, rfl⟩

/-- Without a label, the vendor that has migrated is scored as one. -/
theorem posture_seen_migrated : ∃ out cache, loadScored [migrated "Yes" ""] .missing .missing []
      none = .ok out cache ∧
    ∃ scored, out = ranked scored ∧ List.Forall₂ SeesPosture [migrated "Yes" ""] scored := by
  have hcerts : certs .missing .missing none = .ok [] (some []) := rfl
  have hrows : ∀ row ∈ [migrated "Yes" ""], row.Filled := by
    simpa using filled_migrated "Yes" ""
  obtain ⟨out, cache, h⟩ : ∃ out cache, loadScored [migrated "Yes" ""] .missing .missing [] none =
      .ok out cache := loadScored_returns hcerts hrows (by simp)
  obtain ⟨scored, hout, hsees⟩ := posture_seen_iff hcerts h
  refine ⟨out, cache, h, scored, hout, ?_⟩
  have hunlabelled : (migrated "Yes" "").Unlabelled := fun _ => by decide +kernel
  obtain _ | ⟨⟨-, hrow⟩, _ | _⟩ := hsees
  exact .cons ((hrow rfl).mpr hunlabelled) .nil

/-- A vendor in the first tier whose provider is known: the label hides that it has
migrated, and it is scored as classical. -/
theorem not_posture_seen :
    deriveTier (migrated "Yes" "Cloudflare") = .tier1 ∧
      ∃ out cache, loadScored [migrated "Yes" "Cloudflare"] .missing .missing [] none =
          .ok out cache ∧
        ∃ r ∈ out, r.pqc = false ∧ r.f1 = 38 := by
  have hcerts : certs .missing .missing none = .ok [] (some []) := rfl
  have hrows : ∀ row ∈ [migrated "Yes" "Cloudflare"], row.Filled := by
    simpa using filled_migrated "Yes" "Cloudflare"
  obtain ⟨out, cache, h⟩ : ∃ out cache, loadScored [migrated "Yes" "Cloudflare"] .missing .missing
      [] none = .ok out cache := loadScored_returns hcerts hrows (by simp)
  obtain ⟨scored, rfl, hscored⟩ := loadScored_eq_ok hcerts h
  obtain _ | ⟨⟨v, hv, hr⟩, _ | _⟩ := hscored
  rename_i r
  obtain ⟨-, htls, hpqc, -⟩ := loadVendor_eq_ok hv
  obtain ⟨⟨rtls, rpqc, -⟩, -, rf1, -⟩ := scoreVendor_eq_ok hr
  have hlost : r.pqc = false := by
    rw [rpqc, hpqc]
    decide +kernel
  refine ⟨by decide +kernel, _, cache, h, r, by simp [ranked], hlost, ?_⟩
  rw [rf1, hlost, rtls, htls]
  decide +kernel

/-! ### Work -/

/-- The truth values that a scan has are those of the cells. -/
structure Agrees (row : VendorRecord) (c : CertRecord) : Prop where
  tls13 : c.tls13.finding = some (yn row.tls13)
  pqc : c.pqc.finding = some (yn row.pqc)
  srsa : c.srsa.finding = some (yn row.staticRsa)

/-- A vendor with nothing but a weak cipher. -/
def VendorRecord.OnlyWeak (row : VendorRecord) : Prop :=
  yn row.tls13 ∧ yn row.pqc ∧ yn row.staticRsa = false ∧ yn row.weakCipher

instance : DecidablePred VendorRecord.OnlyWeak := fun row =>
  inferInstanceAs (Decidable (yn row.tls13 ∧ yn row.pqc ∧ yn row.staticRsa = false ∧
    yn row.weakCipher))

section Work

variable {row : VendorRecord} {v : Vendor} {r : ScoredRow} {c : CertRecord}
  {stub : Option HndlInput}

/-- A vendor takes no work when it is migrated, whatever its ciphers. -/
theorem effort_eq_zero_iff {tls13 pqc staticRsa : Bool} :
    (effort tls13 pqc staticRsa).1 = 0 ↔ tls13 ∧ pqc ∧ staticRsa = false := by
  cases tls13 <;> cases pqc <;> cases staticRsa <;> decide

/-- The work and the tier of a record and a row agree: there is none exactly in the first
tier, and in the third there is some, which is counted. -/
structure WorkAgrees (row : VendorRecord) (r : ScoredRow) (out : List ScoredRow) : Prop where
  tier1 : r.effort = 0 ↔ deriveTier row = .tier1
  tier3 : deriveTier row = .tier3 → 0 < r.effort ∧ r ∈ remediable out

/-- The work that a record takes whose cells the scan confirms. -/
theorem effort_of_agrees (hr : scoreVendor (some c) stub v = .ok r) (hc : Agrees row c) :
    r.effort = 0 ↔ deriveTier row = .tier1 ∨ row.OnlyWeak := by
  obtain ⟨⟨rtls, rpqc, rstatic, -⟩, -, -, -, reffort⟩ := scoreVendor_eq_ok hr
  simp only [Option.map_some, found, Option.bind_some, hc.tls13, hc.pqc, hc.srsa, Option.getD_some]
    at rtls rpqc rstatic
  rw [reffort, effort_eq_zero_iff, rtls, rpqc, rstatic, (deriveTier_cases row).2,
    VendorRecord.OnlyWeak]
  cases yn row.tls13 <;> cases yn row.pqc <;> cases yn row.staticRsa <;>
    cases yn row.weakCipher <;> simp

/-- A vendor with nothing but a weak cipher is in the third tier. -/
theorem VendorRecord.OnlyWeak.tier3 (h : row.OnlyWeak) : deriveTier row = .tier3 :=
  (deriveTier_cases row).1.mpr (Or.inr (Or.inl h.2.2.2))

/-- **The work agrees with the tier unless there is nothing but a weak cipher.** -/
theorem workAgrees_iff {out : List ScoredRow} (hr : scoreVendor (some c) stub v = .ok r)
    (hc : Agrees row c) (hout : r ∈ out) :
    WorkAgrees row r out ↔ ¬ row.OnlyWeak := by
  have heffort := effort_of_agrees hr hc
  constructor
  · intro hagrees hweak
    have hsome := (hagrees.tier3 hweak.tier3).1
    have hnone := heffort.mpr (Or.inr hweak)
    omega
  · intro hweak
    have hiff : r.effort = 0 ↔ deriveTier row = .tier1 := by
      rw [heffort, or_iff_left hweak]
    refine ⟨hiff, fun htier => ?_⟩
    have hpos : 0 < r.effort := by
      refine Nat.pos_of_ne_zero fun hzero => ?_
      rw [hiff.mp hzero] at htier
      cases htier
    exact ⟨hpos, List.mem_filter.mpr ⟨hout, by simpa using hpos⟩⟩

/-- The rows that are not counted as remediable take no work. -/
theorem noAction_eq (out : List ScoredRow) :
    (scoreSummary out).noAction = out.countP (·.effort = 0) := by
  have hsplit := List.length_eq_countP_add_countP (fun r : ScoredRow => decide (0 < r.effort))
    (l := out)
  have hzero : out.countP (fun r => decide ¬ (decide (0 < r.effort)) = true) =
      out.countP (·.effort = 0) := List.countP_congr fun r _ => by simp
  simp only [scoreSummary, remediable, ← List.countP_eq_length_filter]
  omega

/-- No record with nothing but a weak cipher is in the first tier. -/
theorem countP_tier1_or (rows : List VendorRecord) :
    rows.countP (fun row => deriveTier row = .tier1 ∨ row.OnlyWeak) =
      rows.countP (fun row => deriveTier row = .tier1) +
        rows.countP (fun row => decide row.OnlyWeak) := by
  induction rows with
  | nil => rfl
  | cons row rows ih =>
    simp only [List.countP_cons, ih]
    by_cases hweak : row.OnlyWeak
    · simp only [hweak, hweak.tier3, or_true, decide_true, if_true, reduceCtorEq, decide_false,
        Bool.false_eq_true, if_false]
      omega
    · simp only [hweak, or_false, decide_false, Bool.false_eq_true, if_false]
      omega

end Work

/-- **When the work agrees with the tier.** Of a record that the scan output confirms,
they agree exactly when there is more to it than a weak cipher; and if it confirms all
records, as many need no action as are in the first tier exactly when that holds of them
all. -/
theorem effort_tier_iff {rows : List VendorRecord} {scanFile full : ScanFile}
    {hndl : Dict String HndlInput} {cache cache' cache'' : Option CertMap} {scans : CertMap}
    {out : List ScoredRow} (hcerts : certs scanFile full cache = .ok scans cache')
    (h : loadScored rows scanFile full hndl cache = .ok out cache'') :
    ∃ scored, out = ranked scored ∧
      List.Forall₂ (fun row r => r.target = row.name ∧
        ∀ c, scans.lookup (.text row.name) = some c → Agrees row c →
          (WorkAgrees row r out ↔ ¬ row.OnlyWeak)) rows scored ∧
      (scoreSummary out).remediable + (scoreSummary out).noAction = rows.length ∧
      ((∀ row ∈ rows, ∃ c, scans.lookup (.text row.name) = some c ∧ Agrees row c) →
        ((scoreSummary out).noAction = rows.countP (deriveTier · = .tier1) ↔
          ∀ row ∈ rows, ¬ row.OnlyWeak)) := by
  obtain ⟨scored, rfl, hrows⟩ := loadScored_eq_ok hcerts h
  have hperm : (ranked scored).Perm scored := List.perm_insertionSort _ scored
  refine ⟨scored, rfl, (forall₂_mem hrows).imp ?_, ?_, fun hall => ?_⟩
  · rintro row r ⟨⟨v, hv, hr⟩, -, hmem⟩
    refine ⟨(scoreVendor_eq_ok hr).2.1.trans (loadVendor_name hv), fun c hc hagrees => ?_⟩
    exact workAgrees_iff (hc ▸ hr) hagrees (hperm.mem_iff.mpr hmem)
  · have hsplit :=
      List.length_filter_le (fun r : ScoredRow => decide (0 < r.effort)) (ranked scored)
    simp only [scoreSummary, remediable]
    rw [Nat.add_sub_cancel' hsplit, hperm.length_eq, hrows.length_eq]
  · -- the rows without work are those of the first tier and those with a weak cipher only
    have hcount : rows.countP (fun row => deriveTier row = .tier1 ∨ row.OnlyWeak) =
        scored.countP (·.effort = 0) := by
      refine countP_eq_of_forall₂ (forall₂_mem hrows) ?_
      rintro row r ⟨⟨v, -, hr⟩, hrow, -⟩
      obtain ⟨c, hc, hagrees⟩ := hall row hrow
      simpa using (effort_of_agrees (hc ▸ hr) hagrees).symm
    rw [noAction_eq, hperm.countP_eq, ← hcount, countP_tier1_or, Nat.add_eq_left,
      List.countP_eq_zero]
    simp

/-- The scan output of a vendor that has migrated. -/
def migratedScan : ScanFile :=
  .json (.obj [("results", .arr [.obj [("label", .str "Bank"), ("tls13", .bool true),
    ("pqc", .bool true), ("static_rsa", .bool false)]])])

/-- What is read of it. -/
def migratedCert : CertRecord := ⟨.str "", .str "", .bool true, .bool true, .bool false⟩

theorem certs_migratedScan : certs migratedScan .missing none =
    .ok [(.text "Bank", migratedCert)] (some [(.text "Bank", migratedCert)]) := rfl

section Migrated

variable {row : VendorRecord}

/-- A record that is found in this scan output is scored. -/
theorem loadScored_migrated (hrow : row.Filled) (hname : row.name = "Bank") :
    ∃ out cache, loadScored [row] migratedScan .missing [] none = .ok out cache := by
  refine loadScored_returns certs_migratedScan (by simpa using hrow) ?_
  simp only [List.mem_singleton, forall_eq, hname]
  rintro c ⟨⟩
  exact ⟨⟨"", rfl⟩, "", rfl⟩

end Migrated

/-- A vendor that has migrated needs no action, and it is in the first tier. -/
theorem effort_tier_migrated :
    ∃ out cache, loadScored [migrated "Yes" ""] migratedScan .missing [] none = .ok out cache ∧
      (scoreSummary out).noAction = 1 := by
  have hname : (migrated "Yes" "").name = "Bank" := by decide +kernel
  obtain ⟨out, cache, h⟩ := loadScored_migrated (filled_migrated "Yes" "") hname
  obtain ⟨scored, -, -, -, hcounts⟩ := effort_tier_iff certs_migratedScan h
  refine ⟨out, cache, h, (hcounts ?_).mpr ?_⟩
  · simp only [List.mem_singleton, forall_eq, hname]
    exact ⟨migratedCert, rfl, by decide +kernel, by decide +kernel, by decide +kernel⟩
  · simp only [List.mem_singleton, forall_eq]
    decide +kernel

/-- A vendor that has migrated but negotiates a weak cipher is in the third tier, and
needs no action. -/
theorem not_effort_tier :
    deriveTier { migrated "Yes" "" with weakCipher := some "Yes" } = .tier3 ∧
      Agrees { migrated "Yes" "" with weakCipher := some "Yes" } migratedCert ∧
      ∃ out cache, loadScored [{ migrated "Yes" "" with weakCipher := some "Yes" }] migratedScan
          .missing [] none = .ok out cache ∧
        (scoreSummary out).remediable = 0 ∧ (scoreSummary out).noAction = 1 := by
  have hweak : VendorRecord.OnlyWeak { migrated "Yes" "" with weakCipher := some "Yes" } := by
    decide +kernel
  have hagrees : Agrees { migrated "Yes" "" with weakCipher := some "Yes" } migratedCert :=
    ⟨by decide +kernel, by decide +kernel, by decide +kernel⟩
  have hname : VendorRecord.name { migrated "Yes" "" with weakCipher := some "Yes" } = "Bank" := by
    decide +kernel
  obtain ⟨out, cache, h⟩ := loadScored_migrated ⟨rfl, rfl, rfl, rfl, rfl, rfl, rfl⟩ hname
  obtain ⟨scored, rfl, hscored⟩ := loadScored_eq_ok certs_migratedScan h
  obtain _ | ⟨⟨v, -, hr⟩, _ | _⟩ := hscored
  rename_i r
  rw [hname] at hr
  have hzero : r.effort = 0 := (effort_of_agrees hr hagrees).mpr (Or.inr hweak)
  exact ⟨hweak.tier3, hagrees, _, cache, h, by simp [scoreSummary, remediable, ranked, hzero],
    by simp [scoreSummary, remediable, ranked, hzero]⟩

end HybridTls

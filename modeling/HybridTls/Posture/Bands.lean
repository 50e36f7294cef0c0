import HybridTls.Posture.Score

/-!
# The bands of the risk score

The total of a row is the sum of three factors and a penalty, capped at 100, and the band
is looked up in a table of three. The table has no gaps and no overlaps
(`HybridTls.band_eq`), so that every total has a band, and the one that stands in for a
missing one is never used.

Each of the factors grows with what it measures, though not in the same way: without
TLS 1.3 it does not matter whether the key exchange is post-quantum, and a retention that
is not known counts as the longest (`HybridTls.f1_le`, `HybridTls.f3_le`). So the total
does, and the band with it (`HybridTls.score_bounded_monotone`).
-/

namespace HybridTls

open Python Raising

/-! ### What a row is made of -/

/-- `cert_key` of a row. -/
def ScoredRow.certKey (r : ScoredRow) : Doc := (r.scan.map (·.certKey)).getD .null

/-- `cert_sig_alg` of a row. -/
def ScoredRow.certSigAlg (r : ScoredRow) : Doc := (r.scan.map (·.certSigAlg)).getD .null

/-- **The scores of a row belong together**: each is what its function gives for the
findings of the row, and the total, the band and the ratio are made from them. -/
structure ScoredRow.Consistent (r : ScoredRow) : Prop where
  f1 : r.f1 = (HybridTls.f1 r.tls13 r.pqc).1
  f2 : HybridTls.f2 r.certKey r.certSigAlg = .ok (r.f2, r.f2r)
  f3 : r.f3 = (HybridTls.f3 r.retentionYears r.dataSensitivity).1
  pen : r.pen = (penalty r.staticRsa).1
  total : r.total = min 100 (r.f1 + r.f2 + r.f3 + r.pen)
  band : (r.bandCode, r.bandLabel) = HybridTls.band r.total
  effort : r.effort = (HybridTls.effort r.tls13 r.pqc r.staticRsa).1
  ratio : r.ratio = HybridTls.ratio r.total r.effort

section Rows

variable {rows : List VendorRecord} {scanFile full : ScanFile} {hndl : Dict String HndlInput}
  {cache cache' : Option CertMap} {out : List ScoredRow}

theorem consistent_of_scoreVendor {scan : Option CertRecord} {stub : Option HndlInput}
    {v : Vendor} {r : ScoredRow} (h : scoreVendor scan stub v = .ok r) : r.Consistent := by
  simp only [scoreVendor, Python.bind_eq_ok, Python.pure_eq_ok, Except.ok.injEq] at h
  obtain ⟨s2, hs2, rfl⟩ := h
  exact ⟨rfl, hs2, rfl, rfl, rfl, rfl, rfl, rfl⟩

/-- A row keeps what it has been scored with. -/
theorem scan_of_scoreVendor {scan : Option CertRecord} {stub : Option HndlInput}
    {v : Vendor} {r : ScoredRow} (h : scoreVendor scan stub v = .ok r) :
    r.scan = scan ∧ r.retentionYears = stub.bind (·.retentionYears) := by
  simp only [scoreVendor, Python.bind_eq_ok, Python.pure_eq_ok, Except.ok.injEq] at h
  obtain ⟨s2, -, rfl⟩ := h
  exact ⟨rfl, rfl⟩

/-- The rows that are scored one after the other, whatever is in the cache before each. -/
theorem consistent_of_scoreRows {vendors : List Vendor}
    (h : vendors.mapM (scoreRow scanFile full hndl) cache = .ok out cache') :
    List.Forall₂ (fun v r => r.target = v.vendor ∧ r.Consistent) vendors out := by
  induction vendors generalizing cache out with
  | nil =>
    obtain ⟨rfl, -⟩ := Raising.pure_eq_ok.mp h
    exact .nil
  | cons v vendors ih =>
    rw [List.mapM_cons] at h
    obtain ⟨r, s₁, hrow, h⟩ := Raising.bind_eq_ok.mp h
    obtain ⟨out', s₂, hrest, h⟩ := Raising.bind_eq_ok.mp h
    obtain ⟨rfl, rfl⟩ := Raising.pure_eq_ok.mp h
    obtain ⟨scans, s₃, -, hscore⟩ := Raising.bind_eq_ok.mp hrow
    obtain ⟨hr, rfl⟩ := ofExcept_eq_ok.mp hscore
    exact .cons ⟨(scoreVendor_eq_ok hr).2.1, consistent_of_scoreVendor hr⟩ (ih hrest)

/-- **The scored rows**, before they are ranked, are those of the records, in order. -/
theorem loadScored_rows (h : loadScored rows scanFile full hndl cache = .ok out cache') :
    ∃ scored, out = ranked scored ∧
      List.Forall₂ (fun row r => r.target = row.name ∧ r.Consistent) rows scored := by
  obtain ⟨vendors, s₁, hvendors, h⟩ := Raising.bind_eq_ok.mp h
  obtain ⟨hload, rfl⟩ := ofExcept_eq_ok.mp hvendors
  obtain ⟨scored, s₂, hscored, h⟩ := Raising.bind_eq_ok.mp h
  obtain ⟨rfl, -⟩ := Raising.pure_eq_ok.mp h
  refine ⟨scored, rfl, ?_⟩
  refine (forall₂_trans (mapM_eq_ok.mp hload) (consistent_of_scoreRows hscored)).imp ?_
  rintro row r ⟨v, hv, htarget, hr⟩
  exact ⟨htarget.trans (loadVendor_name hv), hr⟩

theorem consistent_of_mem (h : loadScored rows scanFile full hndl cache = .ok out cache')
    {r : ScoredRow} (hr : r ∈ out) : r.Consistent := by
  obtain ⟨scored, rfl, hscored⟩ := loadScored_rows h
  have hall := ((List.forall₂_and_left _ _).mp (hscored.flip.imp fun _ _ h => And.symm h)).1
  exact hall r ((List.perm_insertionSort _ scored).mem_iff.mp hr)

end Rows

/-! ### The bands -/

/-- A band has a total. -/
def Band.Has (b : Band) (total : ℕ) : Prop := b.lo ≤ total ∧ total ≤ b.hi

/-- **The total of a row is in one band**, and that is the band of the row. -/
structure ScoredRow.Banded (r : ScoredRow) : Prop where
  total : r.total ≤ 100
  band : ∃! b, b ∈ bands ∧ b.Has r.total
  code : ∀ b ∈ bands, b.Has r.total → r.bandCode = b.code ∧ r.bandLabel = b.label

/-- The place of a band in the table, which starts with the most severe one. -/
def bandRank (code : String) : ℕ := bands.findIdx (·.code = code)

section Band

variable {total total' : ℕ} {b b' : Band}

/-- The bands do not overlap. -/
theorem band_unique (hb : b ∈ bands) (hb' : b' ∈ bands) (h : b.Has total) (h' : b'.Has total) :
    b = b' := by
  simp only [bands, List.mem_cons, List.not_mem_nil, or_false] at hb hb'
  simp only [Band.Has] at h h'
  rcases hb with rfl | rfl | rfl <;> rcases hb' with rfl | rfl | rfl <;>
    first
      | rfl
      | (simp only at h h'; omega)

/-- The bands leave no gap. -/
theorem exists_band (h : total ≤ 100) : ∃ b ∈ bands, b.Has total := by
  by_cases hcritical : 90 ≤ total
  · exact ⟨⟨"critical", 90, 100, "Critical"⟩, by decide, hcritical, h⟩
  by_cases hhigh : 63 ≤ total
  · exact ⟨⟨"high", 63, 89, "High"⟩, by decide, hhigh, (by omega : total ≤ 89)⟩
  · exact ⟨⟨"moderate", 0, 62, "Moderate"⟩, by decide, Nat.zero_le _,
      (by omega : total ≤ 62)⟩

/-- **The band that is looked up** is the one that has the total. -/
theorem band_eq (hb : b ∈ bands) (h : b.Has total) : band total = (b.code, b.label) := by
  have hfind : ∃ b', bands.find? (fun b => b.lo ≤ total && total ≤ b.hi) = some b' := by
    rw [← Option.isSome_iff_exists, List.find?_isSome]
    exact ⟨b, hb, by simpa [Band.Has] using h⟩
  obtain ⟨b', hb'⟩ := hfind
  have hhas : b'.Has total := by simpa [Band.Has] using List.find?_some hb'
  rw [band, hb', band_unique (List.mem_of_find?_eq_some hb') hb hhas h]

/-- A greater total is in a band that is at least as severe. -/
theorem bandRank_le (hb : b ∈ bands) (hb' : b' ∈ bands) (h : b.Has total) (h' : b'.Has total')
    (hle : total ≤ total') : bandRank b'.code ≤ bandRank b.code := by
  have hlt : ∀ b ∈ bands, ∀ b' ∈ bands, b.lo ≤ b'.hi → bandRank b'.code ≤ bandRank b.code := by
    decide
  exact hlt b hb b' hb' (h.1.trans (hle.trans h'.2))

theorem ScoredRow.Consistent.banded {r : ScoredRow} (hr : r.Consistent) : r.Banded := by
  have htotal : r.total ≤ 100 := hr.total ▸ Nat.min_le_left _ _
  obtain ⟨b, hb, hhas⟩ := exists_band htotal
  refine ⟨htotal, ⟨b, ⟨hb, hhas⟩, fun b' hb' => band_unique hb'.1 hb hb'.2 hhas⟩, ?_⟩
  intro b' hb' hhas'
  have hband := hr.band
  rw [band_eq hb' hhas', Prod.mk.injEq] at hband
  exact hband

end Band

/-! ### The factors -/

/-- **The second of two rows is at least as exposed as the first**, with the same
certificate: it has nothing that protects it which the first has not, and everything that
does not, and its retention is unknown or no shorter than that of the first. -/
structure Exposes (r r' : ScoredRow) : Prop where
  certKey : r.certKey = r'.certKey
  certSigAlg : r.certSigAlg = r'.certSigAlg
  tls13 : r'.tls13 → r.tls13
  pqc : r'.pqc → r.pqc
  staticRsa : r.staticRsa → r'.staticRsa
  retention : r'.retentionYears = none ∨
    ∃ years years', r.retentionYears = some years ∧ r'.retentionYears = some years' ∧
      years ≤ years'

section Factors

variable {r r' : ScoredRow}

/-- Without TLS 1.3 the key exchange does not matter, and without one that is post-quantum
only TLS 1.3 does. -/
theorem f1_le {tls13 pqc tls13' pqc' : Bool} (htls : tls13' → tls13) (hpqc : pqc' → pqc) :
    (f1 tls13 pqc).1 ≤ (f1 tls13' pqc').1 := by
  revert tls13 pqc tls13' pqc'
  decide

theorem penalty_le {staticRsa staticRsa' : Bool} (h : staticRsa → staticRsa') :
    (penalty staticRsa).1 ≤ (penalty staticRsa').1 := by
  revert staticRsa staticRsa'
  decide

/-- What is not known counts as the longest retention. -/
theorem f3_le_none (years : Option ℕ) (sens sens' : String) :
    (f3 years sens).1 ≤ (f3 none sens').1 := by
  unfold f3
  cases years with
  | none => exact Nat.le_refl _
  | some years =>
    simp only
    split_ifs <;> simp

theorem f3_le {years years' : ℕ} (h : years ≤ years') (sens sens' : String) :
    (f3 (some years) sens).1 ≤ (f3 (some years') sens').1 := by
  simp only [f3]
  split_ifs <;> simp only <;> omega

/-- **The total grows with the exposure.** -/
theorem total_le (hr : r.Consistent) (hr' : r'.Consistent) (h : Exposes r r') :
    r.total ≤ r'.total := by
  have h₁ : r.f1 ≤ r'.f1 := by
    rw [hr.f1, hr'.f1]
    exact f1_le h.tls13 h.pqc
  have h₂ : r.f2 = r'.f2 := by
    have hf2 := hr.f2
    rw [h.certKey, h.certSigAlg, hr'.f2, Except.ok.injEq, Prod.mk.injEq] at hf2
    exact hf2.1.symm
  have h₃ : r.f3 ≤ r'.f3 := by
    rw [hr.f3, hr'.f3]
    rcases h.retention with hnone | ⟨years, years', hyears, hyears', hle⟩
    · rw [hnone]
      exact f3_le_none _ _ _
    · rw [hyears, hyears']
      exact f3_le hle _ _
  have hpen : r.pen ≤ r'.pen := by
    rw [hr.pen, hr'.pen]
    exact penalty_le h.staticRsa
  rw [hr.total, hr'.total]
  omega

theorem bandRank_bandCode_le (hr : r.Consistent) (hr' : r'.Consistent) (h : Exposes r r') :
    bandRank r'.bandCode ≤ bandRank r.bandCode := by
  obtain ⟨b, ⟨hb, hhas⟩, -⟩ := hr.banded.band
  obtain ⟨b', ⟨hb', hhas'⟩, -⟩ := hr'.banded.band
  rw [(hr.banded.code b hb hhas).1, (hr'.banded.code b' hb' hhas').1]
  exact bandRank_le hb hb' hhas hhas' (total_le hr hr' h)

end Factors

/-- **The risk score is bounded, banded and monotone.** Every row has a total of at most 100
and the one band that has it, and a row that is at least as exposed as another one has no
smaller total and no less severe a band, even if it is from another run. -/
theorem score_bounded_monotone {rows : List VendorRecord} {scanFile full : ScanFile}
    {hndl : Dict String HndlInput} {cache cache' : Option CertMap} {scans : CertMap}
    (hcerts : certs scanFile full cache = .ok scans cache') (hrows : ∀ row ∈ rows, row.Filled)
    (htext : ∀ row ∈ rows, ∀ c ∈ scans.lookup (.text row.name), c.Textual) :
    ∃ out cache'', loadScored rows scanFile full hndl cache = .ok out cache'' ∧
      (∀ r ∈ out, r.Banded) ∧
      ∀ rows' scanFile' full' hndl' cache₁ cache₂ out',
        loadScored rows' scanFile' full' hndl' cache₁ = .ok out' cache₂ →
        ∀ r ∈ out, ∀ r' ∈ out', Exposes r r' →
          r.total ≤ r'.total ∧ bandRank r'.bandCode ≤ bandRank r.bandCode := by
  obtain ⟨out, cache'', h⟩ : ∃ out cache'', loadScored rows scanFile full hndl cache =
      .ok out cache'' := loadScored_returns hcerts hrows htext
  refine ⟨out, cache'', h, fun r hr => (consistent_of_mem h hr).banded, ?_⟩
  intro rows' scanFile' full' hndl' cache₁ cache₂ out' h' r hr r' hr' hexposes
  have hr := consistent_of_mem h hr
  have hr' := consistent_of_mem h' hr'
  exact ⟨total_le hr hr' hexposes, bandRank_bandCode_le hr hr' hexposes⟩

/-! ### A bank and a shop -/

/-- A bank that has migrated, and a shop that has not. -/
def bankAndShop : List VendorRecord :=
  [migrated "Yes" "", { migrated "No" "" with vendor := some "Shop" }]

/-- The scan output of the two. -/
def bankAndShopScan : ScanFile :=
  .json (.obj [("results", .arr [
    .obj [("label", .str "Bank"), ("tls13", .bool true), ("pqc", .bool true),
      ("static_rsa", .bool false)],
    .obj [("label", .str "Shop"), ("tls13", .bool true), ("pqc", .bool false),
      ("static_rsa", .bool true)]])])

/-- What is read of it. -/
def bankAndShopCerts : CertMap :=
  [(.text "Bank", migratedCert),
    (.text "Shop", ⟨.str "", .str "", .bool true, .bool false, .bool true⟩)]

theorem certs_bankAndShop :
    certs bankAndShopScan .missing none = .ok bankAndShopCerts (some bankAndShopCerts) := rfl

theorem filled_bankAndShop : ∀ row ∈ bankAndShop, row.Filled := by
  simp only [bankAndShop, List.forall_mem_cons]
  exact ⟨filled_migrated "Yes" "", ⟨rfl, rfl, rfl, rfl, rfl, rfl, rfl⟩, by simp⟩

theorem name_bankAndShop : bankAndShop.map VendorRecord.name = ["Bank", "Shop"] := by
  decide +kernel

theorem textual_bankAndShop :
    ∀ row ∈ bankAndShop, ∀ c ∈ bankAndShopCerts.lookup (.text row.name), c.Textual := by
  have hnames : ∀ name ∈ bankAndShop.map VendorRecord.name,
      ∀ c ∈ bankAndShopCerts.lookup (.text name), c.Textual := by
    rw [name_bankAndShop]
    simp only [List.forall_mem_cons]
    refine ⟨?_, ?_, by simp⟩
    · rintro _ ⟨⟩
      exact ⟨⟨"", rfl⟩, "", rfl⟩
    · rintro _ ⟨⟩
      exact ⟨⟨"", rfl⟩, "", rfl⟩
  exact fun row hrow => hnames _ (List.mem_map_of_mem hrow)

/-- **Their rows**: the shop is more exposed, and the bank takes no work. -/
theorem scored_bankAndShop {out : List ScoredRow} {cache : Option CertMap}
    (h : loadScored bankAndShop bankAndShopScan .missing [] none = .ok out cache) :
    ∃ bank shop, out = ranked [bank, shop] ∧ bank.target = "Bank" ∧ shop.target = "Shop" ∧
      Exposes bank shop ∧ bank.effort = 0 ∧ shop.effort = 2 := by
  obtain ⟨scored, rfl, hscored⟩ := loadScored_eq_ok certs_bankAndShop h
  have hnames := name_bankAndShop
  simp only [bankAndShop, List.map_cons, List.map_nil, List.cons.injEq, and_true] at hnames
  obtain _ | ⟨⟨v, hv, hbank⟩, _ | ⟨⟨v', hv', hshop⟩, _ | _⟩⟩ := hscored
  rename_i bank shop
  rw [hnames.1] at hbank
  rw [hnames.2] at hshop
  obtain ⟨⟨btls, bpqc, bstatic, -⟩, btarget, -, -, beffort⟩ := scoreVendor_eq_ok hbank
  obtain ⟨⟨stls, spqc, sstatic, -⟩, starget, -, -, seffort⟩ := scoreVendor_eq_ok hshop
  obtain ⟨bscan, byears⟩ := scan_of_scoreVendor hbank
  obtain ⟨sscan, syears⟩ := scan_of_scoreVendor hshop
  have btls' : bank.tls13 = true := btls
  have bpqc' : bank.pqc = true := bpqc
  have bstatic' : bank.staticRsa = false := bstatic
  have stls' : shop.tls13 = true := stls
  have spqc' : shop.pqc = false := spqc
  have sstatic' : shop.staticRsa = true := sstatic
  refine ⟨bank, shop, rfl, ?_, ?_, ⟨?_, ?_, ?_, ?_, ?_, Or.inl syears⟩, ?_, ?_⟩
  · rw [btarget, loadVendor_name hv, hnames.1]
  · rw [starget, loadVendor_name hv', hnames.2]
  · rw [ScoredRow.certKey, ScoredRow.certKey, bscan, sscan]
    rfl
  · rw [ScoredRow.certSigAlg, ScoredRow.certSigAlg, bscan, sscan]
    rfl
  · simp [btls']
  · simp [bpqc']
  · simp [bstatic']
  · rw [beffort, btls', bpqc', bstatic']
    rfl
  · rw [seffort, stls', spqc', sstatic']
    rfl

/-- The shop has no smaller a total than the bank, and no less severe a band. -/
theorem score_bounded_monotone_migrated : ∃ out cache,
    loadScored bankAndShop bankAndShopScan .missing [] none = .ok out cache ∧
      (∀ r ∈ out, r.Banded) ∧ ∃ bank ∈ out, ∃ shop ∈ out,
        bank.target = "Bank" ∧ shop.target = "Shop" ∧ bank.total ≤ shop.total ∧
          bandRank shop.bandCode ≤ bandRank bank.bandCode := by
  obtain ⟨out, cache, h, hbanded, hmono⟩ := @score_bounded_monotone _ _ _ [] _ _ _
    certs_bankAndShop filled_bankAndShop textual_bankAndShop
  obtain ⟨bank, shop, hout, hbank, hshop, hexposes, -⟩ := scored_bankAndShop h
  have hmem : ∀ r ∈ [bank, shop], r ∈ out := fun r hr =>
    hout ▸ (List.perm_insertionSort _ _).mem_iff.mpr hr
  have hle := hmono _ _ _ _ _ _ _ h bank (hmem _ (by simp)) shop (hmem _ (by simp)) hexposes
  exact ⟨out, cache, h, hbanded, bank, hmem _ (by simp), shop, hmem _ (by simp), hbank, hshop, hle⟩

end HybridTls

import HybridTls.Posture.Targets

/-!
# The bill of materials of a target

`build_cbom`, which lists what was observed of a target as components: the protocol, the
groups that were offered, the key encapsulation if there is one, and the findings.

All but one of them are decided on texts that say `Yes` or `No`, or that have been copied
(`HybridTls.cbomComponents_eq`). The name of the key encapsulation, though, is read back
from the text that is shown, by deleting `Yes` and then the blanks and parentheses around
what is left. This undoes `pqc_display` for a label that has neither `Yes` in it nor a
parenthesis at one of its ends, and for no other one (`HybridTls.kemName_yesWith_eq_iff`).
-/

namespace HybridTls

open Python

/-! ### The document -/

/-- The properties of a component, of which there are three kinds. -/
inductive CryptoProperties where
  | protocolProperties (type version : String)
  | relatedCryptoMaterialProperties (type : String)
  | algorithmProperties (primitive : String)
  deriving DecidableEq, Repr

/-- A component. -/
structure Component where
  type : String
  name : String
  assetType : String
  cryptoProperties : CryptoProperties
  deriving DecidableEq, Repr

/-- `_component`. -/
def component (name assetType : String) (cryptoProperties : CryptoProperties) : Component where
  type := "cryptographic-asset"
  name
  assetType
  cryptoProperties

/-- What a document is about. -/
structure CbomSubject where
  type : String
  name : String
  deriving DecidableEq, Repr

/-- The metadata of a document; the properties have a name and a value. -/
structure CbomMetadata where
  timestamp : String
  component : CbomSubject
  properties : List (String × String)
  deriving DecidableEq, Repr

/-- What `build_cbom` returns. -/
structure Cbom where
  bomFormat : String
  specVersion : String
  serialNumber : String
  version : ℕ
  metadata : CbomMetadata
  components : List Component
  deriving DecidableEq, Repr

/-- `CYCLONEDX_SPEC_VERSION`. -/
def cyclonedxSpecVersion : String := "1.6"

/-- The names of the groups: the pieces between the commas, but for blank ones. -/
def curveNames (curves : String) : List String :=
  ((split curves ',').filter fun c => strip c ≠ "").map strip

/-- `kem_name`. -/
def kemName (pqc : String) : String :=
  let name := stripChars (replace pqc "Yes" "") " ()"
  if name ≠ "" then name else "ML-KEM (unspecified parameter set)"

/-- `components`. -/
def cbomComponents (target : Target) : List Component :=
  [component (if target.tls13 = "Yes" then "TLS 1.3" else "TLS <1.3 (observed)") "protocol"
      (.protocolProperties "tls" (if target.tls13 = "Yes" then "1.3" else "unknown"))] ++
    (curveNames target.curves).map (fun curve => component curve "related-crypto-material"
      (.relatedCryptoMaterialProperties "key-agreement-parameter")) ++
    (if target.pqc ≠ "No" then
      [component (kemName target.pqc) "algorithm" (.algorithmProperties "kem")] else []) ++
    (if target.staticRsa = "Yes" then
      [component "Static RSA key exchange (finding)" "algorithm" (.algorithmProperties "kex")]
      else []) ++
    if target.weakCipher = "Yes" then
      [component "Weak cipher suite (finding)" "algorithm" (.algorithmProperties "cipher")]
      else []

/-- `build_cbom`, with a new identifier and the current time. -/
def buildCbom (uuid now : String) (target : Target) : Cbom where
  bomFormat := "CycloneDX"
  specVersion := cyclonedxSpecVersion
  serialNumber := "urn:uuid:" ++ uuid
  version := 1
  metadata := ⟨now, ⟨"application", target.target⟩, [("qvi:tier", target.qviTierLabel)]⟩
  components := cbomComponents target

/-! ### Labels -/

/-- The label that is shown of a record whose post-quantum cell says yes, if there is one. -/
def VendorRecord.label (row : VendorRecord) : Option String :=
  (yesLabel (strip (row.pqc.getD ""))).or
    (if strip (row.pqcProvider.getD "") ≠ "" then some (strip (row.pqcProvider.getD "")) else none)

/-- A text that neither begins nor ends in a blank. -/
def NoBlankEnds (s : String) : Prop :=
  s.toList.head? ≠ some ' ' ∧ s.toList.getLast? ≠ some ' '

/-- **A label that can be read back**: it has no `Yes` in it, and neither begins nor ends in
a parenthesis. -/
def Recoverable (label : String) : Prop :=
  ¬ contains label "Yes" ∧ (∀ c ∈ label.toList.head?, c ≠ '(' ∧ c ≠ ')') ∧
    ∀ c ∈ label.toList.getLast?, c ≠ '(' ∧ c ≠ ')'

/-- A record whose label, if one is shown and has no blanks around it, can be read back. -/
def VendorRecord.LabelRecoverable (row : VendorRecord) : Prop :=
  yn row.pqc → ∀ label ∈ row.label, NoBlankEnds label → Recoverable label

section Label

variable {row : VendorRecord} {label : String}

/-- The characters that are cut off the ends of a label. -/
def isLabelEnd (c : Char) : Bool := [' ', '(', ')'].contains c

/-- The name that is read back, as a list. -/
theorem toList_stripChars_replace (s : String) :
    (stripChars (replace s "Yes" "") " ()").toList =
      Cutting.trim isLabelEnd (Cutting.replace ['Y', 'e', 's'] [] s.toList) := by
  have hchars : " ()".toList = [' ', '(', ')'] := rfl
  have hold : "Yes".toList = ['Y', 'e', 's'] := rfl
  have hnew : "".toList = [] := rfl
  simp only [stripChars, replace, hchars, hold, hnew, String.toList_ofList]
  rfl

/-- Of a label that is shown, what is around it is gone. -/
theorem stripChars_replace_yesWith (label : String) :
    stripChars (replace (yesWith label) "Yes" "") " ()" =
      stripChars (replace label "Yes" "") " ()" := by
  have hyes : ['Y', 'e', 's'] ≠ [] := List.cons_ne_nil _ _
  have htext : (yesWith label).toList =
      ['Y', 'e', 's'] ++ ' ' :: '(' :: (label.toList ++ [')']) := by
    simp [yesWith]
  -- behind the first `Yes`, there can be another one in the label only
  have hreplace : Cutting.replace ['Y', 'e', 's'] [] (yesWith label).toList =
      [' ', '('] ++ (Cutting.replace ['Y', 'e', 's'] [] label.toList ++ [')']) := by
    have hhead : ∀ a, 'Y' ≠ a → ∀ b ∈ ['Y', 'e', 's'].head?, b ≠ a := by
      rintro a ha _ ⟨⟩
      exact ha
    rw [htext, Cutting.replace_append hyes, Cutting.replace_cons hyes (hhead ' ' (by decide)),
      Cutting.replace_cons hyes (hhead '(' (by decide)), Cutting.replace_concat hyes (by decide)]
    rfl
  have hfront : ∀ c ∈ [' ', '('], isLabelEnd c := by
    simp [isLabelEnd]
  rw [← String.toList_inj, toList_stripChars_replace, toList_stripChars_replace, hreplace,
    Cutting.trim_append_left hfront, Cutting.trim_concat (by decide)]

/-- The ends of a label are kept if it has neither blanks nor parentheses there. -/
theorem trim_isLabelEnd_eq_self_iff (hblank : NoBlankEnds label) :
    Cutting.trim isLabelEnd label.toList = label.toList ↔
      (∀ c ∈ label.toList.head?, c ≠ '(' ∧ c ≠ ')') ∧
        ∀ c ∈ label.toList.getLast?, c ≠ '(' ∧ c ≠ ')' := by
  have hend : ∀ c : Char, c ≠ ' ' → (isLabelEnd c = false ↔ c ≠ '(' ∧ c ≠ ')') := fun c hc => by
    simp [isLabelEnd, hc]
  rw [Cutting.trim_eq_self_iff]
  constructor
  · rintro ⟨hhead, hlast⟩
    exact ⟨fun c hc => (hend c fun h => hblank.1 (h ▸ hc)).mp (hhead c hc),
      fun c hc => (hend c fun h => hblank.2 (h ▸ hc)).mp (hlast c hc)⟩
  · rintro ⟨hhead, hlast⟩
    exact ⟨fun c hc => (hend c fun h => hblank.1 (h ▸ hc)).mpr (hhead c hc),
      fun c hc => (hend c fun h => hblank.2 (h ▸ hc)).mpr (hlast c hc)⟩

/-- **When the label is read back**, of a label without blanks around it. -/
theorem kemName_yesWith_eq_iff (hlabel : label ≠ "") (hblank : NoBlankEnds label) :
    kemName (yesWith label) = label ↔ Recoverable label := by
  have hyes : ['Y', 'e', 's'] ≠ [] := List.cons_ne_nil _ _
  have hcontains : ¬ contains label "Yes" ↔ ¬ ['Y', 'e', 's'] <:+: label.toList := by
    rw [contains, decide_eq_true_eq]
    rfl
  rw [kemName, stripChars_replace_yesWith, Recoverable, ← trim_isLabelEnd_eq_self_iff hblank,
    hcontains, ← Cutting.replace_nil_eq_self_iff hyes]
  constructor
  · intro h
    split at h
    next =>
      rw [← String.toList_inj, toList_stripChars_replace] at h
      -- neither step makes the text longer, so that neither changes it
      have hreplace : Cutting.replace ['Y', 'e', 's'] [] label.toList = label.toList := by
        rw [Cutting.replace_nil_eq_self_iff hyes]
        intro hoccurs
        have hlen := Cutting.length_replace_nil_lt hyes hoccurs
        have hle := Cutting.length_trim_le isLabelEnd
          (Cutting.replace ['Y', 'e', 's'] [] label.toList)
        rw [h] at hle
        omega
      rw [hreplace] at h
      exact ⟨hreplace, h⟩
    next hempty =>
      -- the name that stands in for an empty one is not what is read back of itself
      exact absurd (h ▸ hempty) (by decide +kernel)
  · rintro ⟨hreplace, htrim⟩
    have hname : stripChars (replace label "Yes" "") " ()" = label := by
      rw [← String.toList_inj, toList_stripChars_replace, hreplace, htrim]
    rw [hname, if_pos hlabel]

/-- A label is not empty. -/
theorem label_ne_empty (h : row.label = some label) : label ≠ "" := by
  rw [VendorRecord.label, Option.or_eq_some_iff] at h
  rcases h with h | ⟨-, h⟩
  · unfold yesLabel at h
    split at h
    · split_ifs at h
      split at h
      · dsimp only at h
        split_ifs at h with hempty
        obtain rfl := Option.some.inj h
        rwa [ne_eq, ← String.toList_eq_nil_iff, String.toList_ofList]
      · cases h
    · cases h
  · split_ifs at h with hprovider
    exact Option.some.inj h ▸ hprovider

/-- What is shown of a record, in terms of its label. -/
theorem pqcDisplay_eq_label (row : VendorRecord) : pqcDisplay row.pqc row.pqcProvider =
    if yn row.pqc then row.label.elim "Yes" yesWith else "No" := by
  simp only [pqcDisplay, yn_strip, yn_getD, VendorRecord.label]
  cases yn row.pqc with
  | false => rfl
  | true =>
    cases yesLabel (strip (row.pqc.getD "")) with
    | some label => rfl
    | none =>
      simp only [Bool.not_true, Bool.false_eq_true, if_false, if_true, Option.none_or]
      split <;> rfl

theorem yesWith_injective : Function.Injective yesWith := by
  intro a b h
  have hlist := congrArg String.toList h
  simp only [yesWith, String.toList_append, List.append_cancel_right_eq,
    List.append_cancel_left_eq] at hlist
  exact String.toList_inj.mp hlist

theorem yesWith_ne_yes (label : String) : yesWith label ≠ "Yes" := by
  intro h
  have hlist := congrArg String.toList h
  simp [yesWith] at hlist

/-- A label is shown exactly of a record that says yes and has it. -/
theorem pqcDisplay_eq_yesWith_iff : pqcDisplay row.pqc row.pqcProvider = yesWith label ↔
    yn row.pqc ∧ row.label = some label := by
  rw [pqcDisplay_eq_label]
  cases yn row.pqc with
  | false => simp [(yesWith_ne_no label).symm]
  | true =>
    cases row.label with
    | none => simp [(yesWith_ne_yes label).symm]
    | some label' => simp [yesWith_injective.eq_iff]

end Label

/-! ### The components -/

/-- The components that report some assets. -/
def reporting (tls13 : Bool) (curves : List String) (kem : Option String)
    (staticRsa weakCipher : Bool) : List Component :=
  [component (if tls13 then "TLS 1.3" else "TLS <1.3 (observed)") "protocol"
      (.protocolProperties "tls" (if tls13 then "1.3" else "unknown"))] ++
    curves.map (fun curve => component curve "related-crypto-material"
      (.relatedCryptoMaterialProperties "key-agreement-parameter")) ++
    kem.toList.map (fun name => component name "algorithm" (.algorithmProperties "kem")) ++
    (if staticRsa then
      [component "Static RSA key exchange (finding)" "algorithm" (.algorithmProperties "kex")]
      else []) ++
    if weakCipher then
      [component "Weak cipher suite (finding)" "algorithm" (.algorithmProperties "cipher")]
      else []

/-- A component for a key encapsulation. -/
def Component.IsKem (c : Component) : Prop := c.cryptoProperties = .algorithmProperties "kem"

instance : DecidablePred Component.IsKem := fun c =>
  inferInstanceAs (Decidable (c.cryptoProperties = .algorithmProperties "kem"))

/-- **A document reports what was observed** of a record, of which a target has been made,
and nothing else. -/
structure ReportsAssets (row : VendorRecord) (target : Target) (doc : Cbom) : Prop where
  protocol : ∃ c, doc.components.filter (·.assetType = "protocol") = [c] ∧
    c.cryptoProperties = .protocolProperties "tls" (if yn row.tls13 then "1.3" else "unknown")
  /-- The groups, in order. -/
  curves : (doc.components.filter (·.cryptoProperties =
    .relatedCryptoMaterialProperties "key-agreement-parameter")).map (·.name) =
      curveNames (row.curves.getD "")
  kem : doc.components.countP (·.IsKem) = (yn row.pqc).toNat
  staticRsa : doc.components.countP (· = component "Static RSA key exchange (finding)" "algorithm"
    (.algorithmProperties "kex")) = (yn row.staticRsa).toNat
  weakCipher : doc.components.countP (· = component "Weak cipher suite (finding)" "algorithm"
    (.algorithmProperties "cipher")) = (yn row.weakCipher).toNat
  /-- There are no others. -/
  others : doc.components.length = 1 + (curveNames (row.curves.getD "")).length +
    (yn row.pqc).toNat + (yn row.staticRsa).toNat + (yn row.weakCipher).toNat
  label : ∀ label, target.pqc = yesWith label → NoBlankEnds label →
    ∀ c ∈ doc.components, c.IsKem → c.name = label
  noLabel : target.pqc = "Yes" →
    ∀ c ∈ doc.components, c.IsKem → c.name = "ML-KEM (unspecified parameter set)"

section Components

variable {row : VendorRecord} {v : Vendor} {tls13 staticRsa weakCipher : Bool}
  {curves : List String} {kem : Option String}

/-- The components for key encapsulations are those there should be. -/
theorem mem_reporting_kem {c : Component} (hc : c ∈ reporting tls13 curves kem staticRsa weakCipher)
    (hkem : c.IsKem) : c.name ∈ kem := by
  simp only [reporting, List.mem_append, List.mem_singleton, List.mem_map, Option.mem_toList] at hc
  rcases hc with (((rfl | ⟨curve, -, rfl⟩) | ⟨name, hname, rfl⟩) | hc) | hc
  · cases hkem
  · cases hkem
  · exact hname
  all_goals
    split_ifs at hc
    · obtain rfl := List.mem_singleton.mp hc
      exact absurd hkem (by decide)
    · cases hc

theorem countP_reporting_kem :
    (reporting tls13 curves kem staticRsa weakCipher).countP (·.IsKem) = kem.isSome.toNat := by
  cases kem <;> cases staticRsa <;> cases weakCipher <;>
    simp [reporting, component, Component.IsKem, Function.comp_def, List.countP_map]

theorem map_name_filter_reporting : ((reporting tls13 curves kem staticRsa weakCipher).filter
    (·.cryptoProperties = .relatedCryptoMaterialProperties "key-agreement-parameter")).map
      (·.name) = curves := by
  cases kem <;> cases staticRsa <;> cases weakCipher <;>
    simp [reporting, component, Function.comp_def, List.filter_map]

theorem filter_protocol_reporting :
    (reporting tls13 curves kem staticRsa weakCipher).filter (·.assetType = "protocol") =
      [component (if tls13 then "TLS 1.3" else "TLS <1.3 (observed)") "protocol"
        (.protocolProperties "tls" (if tls13 then "1.3" else "unknown"))] := by
  cases kem <;> cases staticRsa <;> cases weakCipher <;>
    simp [reporting, component, Function.comp_def, List.filter_map]

theorem countP_reporting_staticRsa : (reporting tls13 curves kem staticRsa weakCipher).countP
    (· = component "Static RSA key exchange (finding)" "algorithm" (.algorithmProperties "kex")) =
      staticRsa.toNat := by
  cases kem <;> cases staticRsa <;> cases weakCipher <;>
    simp [reporting, component, Function.comp_def, List.countP_map]

theorem countP_reporting_weakCipher : (reporting tls13 curves kem staticRsa weakCipher).countP
    (· = component "Weak cipher suite (finding)" "algorithm" (.algorithmProperties "cipher")) =
      weakCipher.toNat := by
  cases kem <;> cases staticRsa <;> cases weakCipher <;>
    simp [reporting, component, Function.comp_def, List.countP_map]

theorem length_reporting : (reporting tls13 curves kem staticRsa weakCipher).length =
    1 + curves.length + kem.isSome.toNat + staticRsa.toNat + weakCipher.toNat := by
  cases kem <;> cases staticRsa <;> cases weakCipher <;> simp [reporting] <;> omega

/-- Blanks around the cell do not matter. -/
theorem curveNames_strip (curves : String) : curveNames (strip curves) = curveNames curves := by
  have hstrip : ∀ l : List Char, strip (String.ofList l) = String.ofList (Cutting.trim isSpace l) :=
    fun l => by rw [strip, String.toList_ofList, Cutting.trim]
  have hempty : ∀ l : List Char, String.ofList l ≠ "" ↔ l ≠ [] := fun l => by
    rw [ne_eq, ← String.toList_eq_nil_iff, String.toList_ofList]
  have hpieces : ∀ s : String,
      curveNames s = (Cutting.pieces isSpace ',' s.toList).map String.ofList := fun s => by
    rw [curveNames, split, Cutting.pieces, List.filter_map, List.map_map, List.filter_map,
      List.map_map]
    simp only [Function.comp_def, hstrip, hempty]
  rw [hpieces, hpieces, strip, String.toList_ofList]
  exact congrArg _ (Cutting.pieces_trim (by decide) _)

/-- **The components of a target**, in terms of the cells of its record. -/
theorem cbomComponents_eq (hv : loadVendor row = .ok v) : cbomComponents v.toTarget =
    reporting (yn row.tls13) (curveNames (row.curves.getD ""))
      (if yn row.pqc then some (kemName v.pqc) else none) (yn row.staticRsa)
      (yn row.weakCipher) := by
  obtain ⟨-, htls, hpqc, hstatic, hweak, -⟩ := loadVendor_eq_ok hv
  have hno : v.pqc ≠ "No" ↔ yn row.pqc := by
    rw [hpqc, ne_eq, pqcDisplay_eq_no_iff, Bool.not_eq_false]
  simp only [cbomComponents, Vendor.toTarget, htls, hstatic, hweak, yesNo_eq_yes_iff, hno,
    loadVendor_curves hv, curveNames_strip, reporting]
  cases yn row.pqc <;> rfl

/-- **The components are those that were observed**, and the name of a key encapsulation is
what is read back. -/
theorem reportsAssets_iff (hv : loadVendor row = .ok v) (uuid now : String) :
    ReportsAssets row v.toTarget (buildCbom uuid now v.toTarget) ↔ row.LabelRecoverable := by
  have hcomponents : (buildCbom uuid now v.toTarget).components = _ := cbomComponents_eq hv
  have hpqc : v.toTarget.pqc = pqcDisplay row.pqc row.pqcProvider := (loadVendor_eq_ok hv).2.2.1
  have hsome : (if yn row.pqc then some (kemName v.pqc) else none).isSome = yn row.pqc := by
    cases yn row.pqc <;> rfl
  constructor
  · intro h hyes label hlabel hblank
    have hshown : v.pqc = yesWith label := hpqc.trans (pqcDisplay_eq_yesWith_iff.mpr ⟨hyes, hlabel⟩)
    -- there is a component for the key encapsulation, and its name is the label
    have hcount : 0 < (buildCbom uuid now v.toTarget).components.countP (·.IsKem) := by
      rw [h.kem, hyes]
      decide
    obtain ⟨c, hc, hkem⟩ := List.countP_pos_iff.mp hcount
    have hname := h.label label hshown hblank c hc (by simpa using hkem)
    have hread := mem_reporting_kem (hcomponents ▸ hc) (by simpa using hkem)
    rw [if_pos hyes, Option.mem_some_iff, hname, hshown] at hread
    exact (kemName_yesWith_eq_iff (label_ne_empty hlabel) hblank).mp hread
  · intro h
    have hkem : ∀ c ∈ (buildCbom uuid now v.toTarget).components, c.IsKem →
        yn row.pqc ∧ c.name = kemName v.pqc := fun c hc hkem => by
      have hread := mem_reporting_kem (hcomponents ▸ hc) hkem
      split_ifs at hread with hyes
      · exact ⟨hyes, (Option.mem_some_iff.mp hread).symm⟩
      · cases hread
    exact {
      protocol := by
        rw [hcomponents]
        exact ⟨_, filter_protocol_reporting, rfl⟩
      curves := by rw [hcomponents, map_name_filter_reporting]
      kem := by rw [hcomponents, countP_reporting_kem, hsome]
      staticRsa := by rw [hcomponents, countP_reporting_staticRsa]
      weakCipher := by rw [hcomponents, countP_reporting_weakCipher]
      others := by rw [hcomponents, length_reporting, hsome]
      label := fun label hshown hblank c hc hc' => by
        obtain ⟨hyes, hname⟩ := hkem c hc hc'
        have hlabel := (pqcDisplay_eq_yesWith_iff.mp (hpqc.symm.trans hshown)).2
        rw [hname, show v.pqc = yesWith label from hshown]
        exact (kemName_yesWith_eq_iff (label_ne_empty hlabel) hblank).mpr
          (h hyes label hlabel hblank)
      noLabel := fun hshown c hc hc' => by
        rw [(hkem c hc hc').2, show v.pqc = "Yes" from hshown]
        decide +kernel }

end Components

/-- **When the bill of materials reports exactly what was observed.** The documents of the
targets do so exactly for those records whose label, if one is shown and has no blanks
around it, neither has `Yes` in it nor begins or ends in a parenthesis. -/
theorem cbom_exact_iff {rows : List VendorRecord} (hrows : ∀ row ∈ rows, row.Filled) :
    ∃ targets, loadTargets rows = .ok targets ∧ List.Forall₂ (fun row target => ∀ uuid now,
      ReportsAssets row target (buildCbom uuid now target) ↔ row.LabelRecoverable)
        rows targets := by
  obtain ⟨targets, htargets⟩ := exists_loadTargets hrows
  refine ⟨targets, htargets, (loadTargets_eq_ok htargets).imp ?_⟩
  rintro row _ ⟨v, hv, rfl⟩ uuid now
  exact reportsAssets_iff hv uuid now

/-- A record of a vendor that offers two groups, one of them by a provider that varies. -/
def offering (provider : String) : VendorRecord :=
  ⟨some "Bank", some "Yes", some "Yes", some provider, some "No", some "No",
    some "X25519MLKEM768, X25519"⟩

theorem filled_offering (provider : String) : (offering provider).Filled :=
  ⟨rfl, rfl, rfl, rfl, rfl, rfl, rfl⟩

/-- The name of the provider is read back. -/
theorem cbom_exact_cloudflare : ∃ target, loadTargets [offering "Cloudflare"] = .ok [target] ∧
    ∀ uuid now, ReportsAssets (offering "Cloudflare") target (buildCbom uuid now target) := by
  have hrows : ∀ row ∈ [offering "Cloudflare"], row.Filled := by
    simpa using filled_offering "Cloudflare"
  obtain ⟨targets, htargets, hall⟩ := cbom_exact_iff hrows
  obtain _ | ⟨hexact, _ | _⟩ := hall
  refine ⟨_, htargets, fun uuid now => (hexact uuid now).mpr fun _ label hlabel _ => ?_⟩
  have hcloudflare : (offering "Cloudflare").label = some "Cloudflare" := by decide +kernel
  obtain rfl := Option.some.inj (hcloudflare.symm.trans hlabel)
  refine ⟨by decide +kernel, ?_, ?_⟩
  · rintro _ ⟨⟩
    decide
  · rintro _ ⟨⟩
    decide

/-- A provider with a place in parentheses: it is shown as it is, and read back without the
last one. -/
theorem not_cbom_exact : ∃ target, loadTargets [offering "AWS (Dublin)"] = .ok [target] ∧
    target.pqc = "Yes (AWS (Dublin))" ∧ kemName target.pqc = "AWS (Dublin" ∧
    ∀ uuid now, ¬ ReportsAssets (offering "AWS (Dublin)") target (buildCbom uuid now target) := by
  obtain ⟨v, hv⟩ := exists_loadVendor (filled_offering "AWS (Dublin)")
  have hpqc : v.pqc = "Yes (AWS (Dublin))" := by
    rw [(loadVendor_eq_ok hv).2.2.1]
    decide +kernel
  refine ⟨v.toTarget, by rw [loadTargets, loadVendors, List.mapM_cons, hv]; rfl, hpqc, ?_,
    fun uuid now hreports => ?_⟩
  · rw [show v.toTarget.pqc = _ from hpqc]
    decide +kernel
  · have hrecoverable := (reportsAssets_iff hv uuid now).mp hreports (by decide +kernel)
      "AWS (Dublin)" (by decide +kernel) ⟨by decide +kernel, by decide +kernel⟩
    exact absurd rfl (hrecoverable.2.2 ')' (by decide +kernel)).2

end HybridTls

import HybridTls.Lib.Python

/-!
# The vendor records

The records of `vendors.csv`, and what `load_vendors` makes of them.

A record has a cell for each of seven columns, and a cell may be missing, because
the last ones of a line that is too short are. The tier of a vendor is derived from
the cells (`HybridTls.deriveTier`); what is shown of it are texts made from the same
cells, `Yes` or `No`, and for the post-quantum column also `Yes` with a label
(`HybridTls.pqcDisplay`).

Whoever works on the texts has to get back what the cells said. That a text is `No`
is as good as the cell (`HybridTls.yesNo_eq_no_iff`,
`HybridTls.pqcDisplay_eq_no_iff`).
-/

namespace HybridTls

open Python

/-! ### Records -/

/-- A record of `vendors.csv`. -/
structure VendorRecord where
  vendor : Option String
  tls13 : Option String
  pqc : Option String
  pqcProvider : Option String
  staticRsa : Option String
  weakCipher : Option String
  curves : Option String
  deriving DecidableEq, Repr

/-- The tiers, as `tier_class` names them. -/
inductive Tier where
  | tier1
  | tier2
  | tier3
  deriving DecidableEq, Repr

/-- `tier_class`. -/
def Tier.text : Tier → String
  | .tier1 => "tier1"
  | .tier2 => "tier2"
  | .tier3 => "tier3"

/-- `tier_label`. -/
def Tier.label : Tier → String
  | .tier1 => "Tier 1 — Ready"
  | .tier2 => "Tier 2 — Conditional"
  | .tier3 => "Tier 3 — Remediation"

/-- `yn`. -/
def yn (val : Option String) : Bool := startsWith (lower (strip (val.getD ""))) "y"

/-- `derive_tier`. -/
def deriveTier (row : VendorRecord) : Tier :=
  let tls13 := yn row.tls13
  let pqc := yn row.pqc
  let staticRsa := yn row.staticRsa
  let weakCipher := yn row.weakCipher
  if staticRsa || weakCipher || !tls13 then .tier3
  else if tls13 && pqc && !staticRsa && !weakCipher then .tier1
  else .tier2

/-! ### What is shown -/

/-- `"Yes" if b else "No"`. -/
def yesNo (b : Bool) : String := if b then "Yes" else "No"

/-- The group of `re.match(r"yes\s*\((.+)\)", s, re.IGNORECASE)`, if it matches: what
stands between the first parenthesis and the last on the same line, unless that is
nothing. -/
def yesLabel (s : String) : Option String :=
  match s.toList with
  | y :: e :: z :: rest =>
    -- case is ignored, and the long s is an s
    if (y = 'y' || y = 'Y') && (e = 'e' || e = 'E') && (z = 's' || z = 'S' || z.toNat = 383) then
      match rest.dropWhile isSpace with
      | '(' :: group =>
        let label := ((group.takeWhile (· ≠ '\n')).rdropWhile (· ≠ ')')).dropLast
        if label = [] then none else some (String.ofList label)
      | _ => none
    else none
  | _ => none

/-- `f"Yes ({label})"`. -/
def yesWith (label : String) : String := "Yes (" ++ label ++ ")"

/-- `pqc_display`. -/
def pqcDisplay (pqcRaw provider : Option String) : String :=
  let raw := strip (pqcRaw.getD "")
  if !yn (some raw) then "No"
  else match yesLabel raw with
    | some label => yesWith label
    | none =>
      if strip (provider.getD "") ≠ "" then yesWith (strip (provider.getD "")) else "Yes"

/-! ### Vendors -/

/-- What `load_vendors` returns of a record. -/
structure Vendor where
  vendor : String
  tls13 : String
  pqc : String
  staticRsa : String
  weakCipher : String
  curves : String
  tier : Tier
  deriving DecidableEq, Repr

/-- `cell.strip()`, which a missing cell does not have. -/
def stripCell : Option String → Py String
  | none => .error .attributeError
  | some s => .ok (strip s)

/-- The body of the loop of `load_vendors`. -/
def loadVendor (row : VendorRecord) : Py Vendor := do
  return {
    vendor := ← stripCell row.vendor
    tls13 := yesNo (yn row.tls13)
    pqc := pqcDisplay row.pqc row.pqcProvider
    staticRsa := yesNo (yn row.staticRsa)
    weakCipher := yesNo (yn row.weakCipher)
    curves := ← stripCell row.curves
    tier := deriveTier row }

/-- `load_vendors`, of the records of the file. -/
def loadVendors (rows : List VendorRecord) : Py (List Vendor) := rows.mapM loadVendor

/-- All the cells of a record are there. -/
structure VendorRecord.Filled (row : VendorRecord) : Prop where
  vendor : row.vendor.isSome
  tls13 : row.tls13.isSome
  pqc : row.pqc.isSome
  pqcProvider : row.pqcProvider.isSome
  staticRsa : row.staticRsa.isSome
  weakCipher : row.weakCipher.isSome
  curves : row.curves.isSome

section Shown

variable {row : VendorRecord} {v : Vendor}

@[simp] theorem yesNo_eq_yes_iff {b : Bool} : yesNo b = "Yes" ↔ b := by
  cases b <;> decide

@[simp] theorem yesNo_eq_no_iff {b : Bool} : yesNo b = "No" ↔ b = false := by
  cases b <;> decide

/-- White space around a cell does not matter. -/
@[simp] theorem yn_strip (s : String) : yn (some (strip s)) = yn (some s) := by
  simp [yn]

theorem yn_getD (val : Option String) : yn (some (val.getD "")) = yn val := rfl

theorem yesWith_ne_no (label : String) : yesWith label ≠ "No" := by
  intro h
  have hlist := congrArg String.toList h
  simp [yesWith] at hlist

/-- **The post-quantum column reads `No` exactly when the cell does not say yes**,
whatever else it says. -/
theorem pqcDisplay_eq_no_iff {pqcRaw provider : Option String} :
    pqcDisplay pqcRaw provider = "No" ↔ yn pqcRaw = false := by
  simp only [pqcDisplay, yn_strip, yn_getD]
  cases yn pqcRaw with
  | false => simp
  | true =>
    simp only [Bool.not_true, Bool.false_eq_true, if_false, Bool.true_eq_false, iff_false]
    split
    · exact yesWith_ne_no _
    · split
      · exact yesWith_ne_no _
      · decide

/-- The tier, in terms of the four cells. -/
theorem deriveTier_cases (row : VendorRecord) :
    (deriveTier row = .tier3 ↔ yn row.staticRsa ∨ yn row.weakCipher ∨ yn row.tls13 = false) ∧
      (deriveTier row = .tier1 ↔ yn row.tls13 ∧ yn row.pqc ∧ yn row.staticRsa = false ∧
        yn row.weakCipher = false) := by
  unfold deriveTier
  cases yn row.tls13 <;> cases yn row.pqc <;> cases yn row.staticRsa <;>
    cases yn row.weakCipher <;> simp

/-- What a vendor is made of. -/
theorem loadVendor_eq_ok (h : loadVendor row = .ok v) :
    (∃ name, row.vendor = some name ∧ v.vendor = strip name) ∧ v.tls13 = yesNo (yn row.tls13) ∧
      v.pqc = pqcDisplay row.pqc row.pqcProvider ∧ v.staticRsa = yesNo (yn row.staticRsa) ∧
      v.weakCipher = yesNo (yn row.weakCipher) ∧ v.tier = deriveTier row := by
  simp only [loadVendor, bind_eq_ok, pure_eq_ok, Except.ok.injEq] at h
  obtain ⟨name, hname, curves, -, rfl⟩ := h
  dsimp only
  refine ⟨?_, rfl, rfl, rfl, rfl, rfl⟩
  cases hvendor : row.vendor with
  | none => simp [hvendor, stripCell] at hname
  | some s =>
    rw [hvendor, stripCell, Except.ok.injEq] at hname
    exact ⟨s, rfl, hname.symm⟩

theorem loadVendor_curves (h : loadVendor row = .ok v) : v.curves = strip (row.curves.getD "") := by
  simp only [loadVendor, bind_eq_ok, pure_eq_ok, Except.ok.injEq] at h
  obtain ⟨-, -, curves, hcurves, rfl⟩ := h
  cases hrow : row.curves with
  | none => simp [hrow, stripCell] at hcurves
  | some s =>
    rw [hrow, stripCell, Except.ok.injEq] at hcurves
    exact hcurves.symm

/-- A record is loaded if its name and its curves are there. -/
theorem exists_loadVendor (h : row.Filled) : ∃ v, loadVendor row = .ok v := by
  obtain ⟨name, hname⟩ := Option.isSome_iff_exists.mp h.vendor
  obtain ⟨curves, hcurves⟩ := Option.isSome_iff_exists.mp h.curves
  rw [loadVendor, hname, hcurves]
  exact ⟨_, rfl⟩

end Shown

end HybridTls

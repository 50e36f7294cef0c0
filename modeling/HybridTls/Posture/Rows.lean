import HybridTls.Posture.Vendors

/-!
# Short records, and the rows of the generator

A line of `vendors.csv` may have fewer fields than the header: the cells that are left
are missing. `load_vendors` is made for that, as far as a cell is read by `yn` or by
`pqc_display`, but the curves are not, and they are the last column: every record that is
short has none, and takes the whole file with it (`HybridTls.loadVendor_ofFields_iff`).

`gen_tprm_rows.py` derives the same cells once more, for a page that is made by hand. It
does not look for missing cells at all. Of the records that have every field, though, it
renders what is loaded (`HybridTls.GenTprmRows.cells_eq`), so that both can be said of a
file exactly when no record is short (`HybridTls.loadVendors_tolerant_iff`).
-/

namespace HybridTls

open Python

/-! ### Records from lines -/

/-- The record of the fields of a line: a field that the line does not have is missing. -/
def VendorRecord.ofFields (fields : List String) : VendorRecord where
  vendor := fields[0]?
  tls13 := fields[1]?
  pqc := fields[2]?
  pqcProvider := fields[3]?
  staticRsa := fields[4]?
  weakCipher := fields[5]?
  curves := fields[6]?

/-- The fields of a line, with empty ones for those that are missing. -/
def padded (fields : List String) : List String :=
  fields ++ List.replicate (7 - fields.length) ""

theorem padded_eq_self {fields : List String} (h : fields.length = 7) : padded fields = fields := by
  simp [padded, h]

/-- A line with every field. -/
theorem VendorRecord.filled_ofFields {fields : List String} (h : fields.length = 7) :
    (VendorRecord.ofFields fields).Filled := by
  constructor <;> simp [ofFields, h]

/-- **A line is loaded** if the curves are there. -/
theorem loadVendor_ofFields_iff {fields : List String} (h : fields.length ≤ 7) :
    (∃ v, loadVendor (.ofFields fields) = .ok v) ↔ fields.length = 7 := by
  constructor
  · rintro ⟨v, hv⟩
    simp only [loadVendor, bind_eq_ok] at hv
    obtain ⟨-, -, curves, hcurves, -⟩ := hv
    by_contra hne
    have hshort : fields.length ≤ 6 := by omega
    simp [VendorRecord.ofFields, stripCell, List.getElem?_eq_none hshort] at hcurves
  · intro hlen
    exact exists_loadVendor (VendorRecord.filled_ofFields hlen)

/-! ### The generator -/

namespace GenTprmRows

/-- `yn`, of the generator. -/
def yn (val : Option String) : Py Bool := do
  return startsWith (lower (← stripCell val)) "y"

/-- `derive_tier`, of the generator. -/
def deriveTier (row : VendorRecord) : Py Tier := do
  let tls13 ← yn row.tls13
  let pqc ← yn row.pqc
  let staticRsa ← yn row.staticRsa
  let weakCipher ← yn row.weakCipher
  if staticRsa || weakCipher || !tls13 then return .tier3
  else if tls13 && pqc && !staticRsa && !weakCipher then return .tier1
  else return .tier2

/-- `pqc_display`, of the generator. -/
def pqcDisplay (pqcRaw provider : Option String) : Py String := do
  let raw ← stripCell pqcRaw
  let pqc ← yn (some raw)
  if !pqc then return "No"
  else match yesLabel raw with
    | some label => return yesWith label
    | none =>
      let provider ← stripCell provider
      return if provider ≠ "" then yesWith provider else "Yes"

/-- What is put into a row. -/
structure Cells where
  vendor : String
  tls13 : String
  pqc : String
  staticRsa : String
  weakCipher : String
  curves : String
  cssClass : String
  label : String
  deriving DecidableEq, Repr

/-- The values that `render_row` computes. -/
def cells (row : VendorRecord) : Py Cells := do
  let tier ← deriveTier row
  let tls13 ← yn row.tls13
  let staticRsa ← yn row.staticRsa
  let weakCipher ← yn row.weakCipher
  let pqc ← pqcDisplay row.pqc row.pqcProvider
  let curves ← stripCell row.curves
  let vendor ← stripCell row.vendor
  return {
    vendor
    tls13 := yesNo tls13
    pqc
    staticRsa := yesNo staticRsa
    weakCipher := yesNo weakCipher
    curves
    cssClass := tier.text
    label := tier.label }

/-- The text of a row. -/
def Cells.text (c : Cells) : String :=
  "        <tr><td>" ++ c.vendor ++ "</td>" ++
    "<td>" ++ c.tls13 ++ "</td>" ++
    "<td>" ++ c.pqc ++ "</td>" ++
    "<td>" ++ c.staticRsa ++ "</td>" ++
    "<td>" ++ c.weakCipher ++ "</td>" ++
    "<td>" ++ c.curves ++ "</td>" ++
    "<td><span class=\"badge " ++ c.cssClass ++ "\">" ++ c.label ++ "</span></td></tr>"

/-- `render_row`. -/
def renderRow (row : VendorRecord) : Py String := do
  return (← cells row).text

section Filled

variable {row : VendorRecord} {v : Vendor}

theorem stripCell_of_isSome {cell : Option String} (h : cell.isSome) :
    stripCell cell = .ok (strip (cell.getD "")) := by
  obtain ⟨s, rfl⟩ := Option.isSome_iff_exists.mp h
  rfl

/-- A cell that is there says the same to both. -/
theorem yn_of_isSome {val : Option String} (h : val.isSome) : yn val = .ok (HybridTls.yn val) := by
  rw [yn, stripCell_of_isSome h]
  rfl

theorem deriveTier_eq (h : row.Filled) : deriveTier row = .ok (HybridTls.deriveTier row) := by
  rw [deriveTier, yn_of_isSome h.tls13, yn_of_isSome h.pqc, yn_of_isSome h.staticRsa,
    yn_of_isSome h.weakCipher, HybridTls.deriveTier]
  generalize HybridTls.yn row.tls13 = tls13, HybridTls.yn row.pqc = pqc,
    HybridTls.yn row.staticRsa = staticRsa, HybridTls.yn row.weakCipher = weakCipher
  revert tls13 pqc staticRsa weakCipher
  decide

theorem pqcDisplay_eq {pqcRaw provider : Option String} (hraw : pqcRaw.isSome)
    (hprovider : provider.isSome) :
    pqcDisplay pqcRaw provider = .ok (HybridTls.pqcDisplay pqcRaw provider) := by
  rw [pqcDisplay, stripCell_of_isSome hraw, stripCell_of_isSome hprovider, HybridTls.pqcDisplay]
  simp only [yn_of_isSome (Option.isSome_some), Except.bind, bind]
  split
  next => rfl
  next =>
    cases yesLabel (strip (pqcRaw.getD "")) with
    | some label => rfl
    | none => rfl

/-- **The generator renders what is loaded**, of a record that has every cell. -/
theorem cells_eq (h : row.Filled) (hv : loadVendor row = .ok v) : cells row =
    .ok ⟨v.vendor, v.tls13, v.pqc, v.staticRsa, v.weakCipher, v.curves, v.tier.text,
      v.tier.label⟩ := by
  rw [loadVendor, stripCell_of_isSome h.vendor, stripCell_of_isSome h.curves] at hv
  obtain rfl := Except.ok.inj hv
  rw [cells, deriveTier_eq h, yn_of_isSome h.tls13, yn_of_isSome h.staticRsa,
    yn_of_isSome h.weakCipher, pqcDisplay_eq h.pqc h.pqcProvider, stripCell_of_isSome h.vendor,
    stripCell_of_isSome h.curves]
  simp only [bind, Except.bind, pure, Except.pure]

end Filled

end GenTprmRows

/-! ### What is asked of loading -/

/-- The cells that are shown of a vendor. -/
def Vendor.cells (v : Vendor) : GenTprmRows.Cells where
  vendor := v.vendor
  tls13 := v.tls13
  pqc := v.pqc
  staticRsa := v.staticRsa
  weakCipher := v.weakCipher
  curves := v.curves
  cssClass := v.tier.text
  label := v.tier.label

/-- **Short lines are tolerated**: there is a vendor for every line, in order, which is
that of the line with empty fields for the missing ones. What is loaded of a line with
every field is what the generator renders. -/
def LoadsTolerantly (records : List (List String)) : Prop :=
  ∃ vendors, loadVendors (records.map .ofFields) = .ok vendors ∧
    List.Forall₂ (fun fields v => loadVendor (.ofFields (padded fields)) = .ok v ∧
      (fields.length = 7 → GenTprmRows.cells (.ofFields fields) = .ok v.cells ∧
        GenTprmRows.renderRow (.ofFields fields) = .ok v.cells.text)) records vendors

section Tolerant

variable {records : List (List String)}

/-- **When loading tolerates short lines**: exactly when there are none. -/
theorem loadVendors_tolerant_iff
    (h : ∀ fields ∈ records, fields ≠ [] ∧ fields.length ≤ 7) :
    LoadsTolerantly records ↔ ∀ fields ∈ records, fields.length = 7 := by
  constructor
  · rintro ⟨vendors, hload, -⟩ fields hfields
    have hfields' := List.mem_map_of_mem (f := VendorRecord.ofFields) hfields
    exact (loadVendor_ofFields_iff (h fields hfields).2).mp (exists_of_mapM_eq_ok hload hfields')
  · intro hfull
    obtain ⟨vendors, hload⟩ : ∃ vendors, loadVendors (records.map .ofFields) = .ok vendors := by
      refine exists_mapM fun row hrow => ?_
      obtain ⟨fields, hfields, rfl⟩ := List.mem_map.mp hrow
      exact exists_loadVendor (VendorRecord.filled_ofFields (hfull fields hfields))
    refine ⟨vendors, hload, ?_⟩
    have hall := mapM_eq_ok.mp hload
    rw [List.forall₂_map_left_iff] at hall
    refine (forall₂_mem hall).imp fun fields v hv => ?_
    have hlen := hfull fields hv.2.1
    have hcells : GenTprmRows.cells (.ofFields fields) = .ok v.cells :=
      GenTprmRows.cells_eq (VendorRecord.filled_ofFields hlen) hv.1
    refine ⟨by rw [padded_eq_self hlen, hv.1], fun _ => ⟨hcells, ?_⟩⟩
    rw [GenTprmRows.renderRow, hcells]
    rfl

/-- A line with every field. -/
theorem loadVendors_tolerant_iff_bank :
    LoadsTolerantly [["Bank", "Yes", "No", "", "No", "No", "X25519"]] ↔
      ∀ fields ∈ [["Bank", "Yes", "No", "", "No", "No", "X25519"]], fields.length = 7 :=
  loadVendors_tolerant_iff (by decide)

/-- A line that ends after its second field: the file is not loaded. -/
theorem loadVendors_not_tolerant : ¬ LoadsTolerantly [["Bank", "Yes"]] := by
  rintro ⟨vendors, hload, -⟩
  have herror : loadVendors ([["Bank", "Yes"]].map .ofFields) = .error .attributeError := by
    decide +kernel
  rw [herror] at hload
  cases hload

end Tolerant

end HybridTls

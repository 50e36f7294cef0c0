import HybridTls.Lib.Csv
import HybridTls.Posture.HndlInputs
import HybridTls.Posture.Rows

/-!
# The records of the files

How `csv.DictReader` makes records of a text, and what the two loaders make of the text of a
file.

The first record of a file names the columns; a record behind it has, under the name of a
column, the field at its place (`HybridTls.lookup_dictRow`), or nothing if it is too short. A
blank line is no record.

`load_vendors` insists on six of the columns and, in every record, on a field in two of them;
that, and that the text can be read as a table, is all it takes to load a file, and every
record gives the vendor that its cells describe (`HybridTls.loadVendorsFile_eq_ok_iff`),
wherever the columns stand. So what has been written by a program that knows how to write
tables is loaded as it was meant, whatever its cells contain
(`HybridTls.vendorsFile_written`).
-/

namespace HybridTls

open Python

/-! ### Rows as dictionaries -/

/-- A row of `csv.DictReader`, but for the fields beyond the last of the columns, which it keeps
under the key `None`. -/
abbrev DictRow := Dict String (Option String)

/-- `dict(zip(fieldnames, row))`, with `restval` under the names that are left over. -/
def dictRow (fieldnames row : List String) : DictRow :=
  let d := (fieldnames.zip row).foldl (fun (d : DictRow) p => d.setItem p.1 (some p.2)) []
  (fieldnames.drop row.length).foldl (fun (d : DictRow) name => d.setItem name none) d

/-- The rows of a file, and the error that has ended them. -/
structure DictRows where
  rows : List DictRow
  error : Option Csv.Error

/-- `csv.DictReader`: the first record names the columns, and blank lines are skipped. -/
def dictReader (text : List Char) : DictRows :=
  let records := Csv.records Csv.excel text
  match records.rows.map (·.map String.ofList) with
  | [] => ⟨[], records.error⟩
  | fieldnames :: rows => ⟨(rows.filter (· ≠ [])).map (dictRow fieldnames), records.error⟩

/-- The place of the last of the columns with a name. -/
def columnOf (name : String) : List String → Option ℕ
  | [] => none
  | fieldname :: fieldnames =>
    match columnOf name fieldnames with
    | some i => some (i + 1)
    | none => if fieldname = name then some 0 else none

section Rows

variable {name : String} {fieldnames row : List String}

theorem columnOf_isSome_iff : (columnOf name fieldnames).isSome ↔ name ∈ fieldnames := by
  induction fieldnames with
  | nil => simp [columnOf]
  | cons fieldname fieldnames ih =>
    rw [columnOf, List.mem_cons, ← ih]
    cases columnOf name fieldnames with
    | some i => simp
    | none => by_cases h : fieldname = name <;> simp [h, Ne.symm]

/-- **A row has the field at the place of a column under its name**, and nothing if it does not
reach that far. -/
theorem lookup_dictRow (fieldnames row : List String) (name : String) :
    (dictRow fieldnames row).lookup name = (columnOf name fieldnames).map fun i => row[i]? := by
  rw [dictRow, Dict.lookup_foldl_setItem, Dict.lookup_foldl_setItem]
  simp only [List.lookup_nil, Option.or_none]
  induction fieldnames generalizing row with
  | nil => simp [columnOf]
  | cons fieldname fieldnames ih =>
    cases row with
    | nil =>
      have hrest := ih []
      simp only [List.length_nil, List.drop_zero, List.zip_nil_right, List.reverse_nil,
        List.find?_nil, Option.map_none, Option.or_none] at hrest ⊢
      rw [List.reverse_cons, List.find?_append, Option.map_or, hrest, columnOf]
      cases columnOf name fieldnames with
      | some i => rfl
      | none => by_cases h : fieldname = name <;> simp [h]
    | cons field row =>
      rw [List.length_cons, List.drop_succ_cons, List.zip_cons_cons, List.reverse_cons,
        List.find?_append, Option.map_or, ← Option.or_assoc, ih, columnOf]
      cases columnOf name fieldnames with
      | some i => rfl
      | none => by_cases h : fieldname = name <;> simp [h]

/-- What is under a name in a row. -/
def cellOf (fieldnames row : List String) (name : String) : Option String :=
  (columnOf name fieldnames).bind fun i => row[i]?

theorem getItem_dictRow_eq_ok_iff {cell : Option String} :
    (dictRow fieldnames row).getItem name = .ok cell ↔
      name ∈ fieldnames ∧ cellOf fieldnames row name = cell := by
  rw [Dict.getItem, lookup_dictRow, ← columnOf_isSome_iff, cellOf]
  cases columnOf name fieldnames with
  | none => simp
  | some i => simp

/-- A default of `get` that is empty is as good as a missing field. -/
theorem getD_lookup_dictRow :
    (((dictRow fieldnames row).lookup name).getD (some "")).getD "" =
      (cellOf fieldnames row name).getD "" := by
  rw [lookup_dictRow, cellOf]
  cases columnOf name fieldnames <;> rfl

end Rows

/-- What loading a file can raise. -/
inductive FileError where
  | csv (e : Csv.Error)
  | exn (e : Exn)
  deriving DecidableEq, Repr

/-- A loop over the rows of a file raises what its body raises, or else what has ended the
rows. -/
def overRows {α : Type} (file : DictRows) (loop : List DictRow → Py α) : Except FileError α :=
  match loop file.rows with
  | .error e => .error (.exn e)
  | .ok a => match file.error with
    | some e => .error (.csv e)
    | none => .ok a

/-! ### The vendors -/

/-- The body of the loop of `load_vendors`, of a row. -/
def loadVendorRow (row : DictRow) : Py Vendor := do
  -- what `derive_tier` reads comes first
  let tls13 ← row.getItem "tls13"
  let pqc ← row.getItem "pqc"
  let staticRsa ← row.getItem "static_rsa"
  let weakCipher ← row.getItem "weak_cipher"
  let vendor ← row.getItem "vendor"
  let name ← stripCell vendor
  let pqcProvider := (row.lookup "pqc_provider").getD (some "")
  let curves ← row.getItem "curves"
  let shown ← stripCell curves
  return {
    vendor := name
    tls13 := yesNo (yn tls13)
    pqc := pqcDisplay pqc pqcProvider
    staticRsa := yesNo (yn staticRsa)
    weakCipher := yesNo (yn weakCipher)
    curves := shown
    tier := deriveTier ⟨vendor, tls13, pqc, pqcProvider, staticRsa, weakCipher, curves⟩ }

/-- `load_vendors`, of the text of the file. -/
def loadVendorsFile (text : List Char) : Except FileError (List Vendor) :=
  overRows (dictReader text) fun rows => rows.mapM loadVendorRow

/-- The cells of a row. -/
def VendorRecord.under (fieldnames row : List String) : VendorRecord where
  vendor := cellOf fieldnames row "vendor"
  tls13 := cellOf fieldnames row "tls13"
  pqc := cellOf fieldnames row "pqc"
  pqcProvider := cellOf fieldnames row "pqc_provider"
  staticRsa := cellOf fieldnames row "static_rsa"
  weakCipher := cellOf fieldnames row "weak_cipher"
  curves := cellOf fieldnames row "curves"

/-- The columns there have to be. -/
def vendorColumns : List String :=
  ["tls13", "pqc", "static_rsa", "weak_cipher", "vendor", "curves"]

section Vendors

variable {fieldnames row : List String} {v : Vendor}

/-- **A row is loaded as the record of its cells**, if the columns are there. -/
theorem loadVendorRow_eq_ok_iff : loadVendorRow (dictRow fieldnames row) = .ok v ↔
    (∀ name ∈ vendorColumns, name ∈ fieldnames) ∧
      loadVendor (.under fieldnames row) = .ok v := by
  have hprovider : ∀ raw, pqcDisplay raw
      (((dictRow fieldnames row).lookup "pqc_provider").getD (some "")) =
        pqcDisplay raw (cellOf fieldnames row "pqc_provider") := by
    intro raw
    simp only [pqcDisplay, getD_lookup_dictRow]
  simp only [loadVendorRow, bind_eq_ok, getItem_dictRow_eq_ok_iff, pure_eq_ok, Except.ok.injEq,
    vendorColumns, List.forall_mem_cons, loadVendor, VendorRecord.under, hprovider]
  constructor
  · rintro ⟨_, ⟨h₁, rfl⟩, _, ⟨h₂, rfl⟩, _, ⟨h₃, rfl⟩, _, ⟨h₄, rfl⟩, _, ⟨h₅, rfl⟩, name, hname,
      _, ⟨h₆, rfl⟩, shown, hshown, rfl⟩
    exact ⟨⟨h₁, h₂, h₃, h₄, h₅, h₆, by simp⟩, name, hname, shown, hshown, rfl⟩
  · rintro ⟨⟨h₁, h₂, h₃, h₄, h₅, h₆, -⟩, name, hname, shown, hshown, rfl⟩
    exact ⟨_, ⟨h₁, rfl⟩, _, ⟨h₂, rfl⟩, _, ⟨h₃, rfl⟩, _, ⟨h₄, rfl⟩, _, ⟨h₅, rfl⟩, name, hname,
      _, ⟨h₆, rfl⟩, shown, hshown, rfl⟩

/-- A record is loaded if its name and its curves are there, whatever else is. -/
theorem exists_loadVendor_iff {record : VendorRecord} :
    (∃ v, loadVendor record = .ok v) ↔ record.vendor.isSome ∧ record.curves.isSome := by
  simp only [loadVendor, bind_eq_ok, pure_eq_ok, Except.ok.injEq]
  constructor
  · rintro ⟨v, name, hname, shown, hshown, -⟩
    constructor
    · cases hvendor : record.vendor with
      | none => simp [hvendor, stripCell] at hname
      | some s => rfl
    · cases hcurves : record.curves with
      | none => simp [hcurves, stripCell] at hshown
      | some s => rfl
  · rintro ⟨hvendor, hcurves⟩
    obtain ⟨vendor, hvendor⟩ := Option.isSome_iff_exists.mp hvendor
    obtain ⟨curves, hcurves⟩ := Option.isSome_iff_exists.mp hcurves
    rw [hvendor, hcurves]
    exact ⟨_, _, rfl, _, rfl, rfl⟩

end Vendors

/-! ### Tables -/

/-- The names of the columns of a table. -/
def tableColumns (table : List (List String)) : List String := table.headD []

/-- The records of a table: the lines behind the first one, but for the blank ones. -/
def tableRows (table : List (List String)) : List (List String) := table.tail.filter (· ≠ [])

/-- The table that has been read. -/
def texts (rows : List (List (List Char))) : List (List String) :=
  rows.map fun row => row.map String.ofList

section Tables

variable {text : List Char} {α : Type} {loop : List DictRow → Py α} {a : α}
  {table : List (List String)}

theorem texts_map_toList (table : List (List String)) :
    texts (table.map fun row => row.map String.toList) = table := by
  simp [texts, Function.comp_def]

theorem rows_dictReader (text : List Char) : (dictReader text).rows =
    (tableRows (texts (Csv.records Csv.excel text).rows)).map
      (dictRow (tableColumns (texts (Csv.records Csv.excel text).rows))) := by
  rw [dictReader, texts]
  cases (Csv.records Csv.excel text).rows with
  | nil => rfl
  | cons row rows => rfl

theorem error_dictReader (text : List Char) :
    (dictReader text).error = (Csv.records Csv.excel text).error := by
  rw [dictReader]
  cases (Csv.records Csv.excel text).rows with
  | nil => rfl
  | cons row rows => rfl

/-- **When a loop over the rows of a file returns**: the file is a table, and the loop returns
over its records. -/
theorem overRows_eq_ok_iff : overRows (dictReader text) loop = .ok a ↔
    ∃ rows, Csv.read Csv.excel text = .ok rows ∧
      loop ((tableRows (texts rows)).map (dictRow (tableColumns (texts rows)))) = .ok a := by
  rw [overRows, rows_dictReader, error_dictReader, Csv.read]
  cases hloop : loop ((tableRows (texts (Csv.records Csv.excel text).rows)).map
      (dictRow (tableColumns (texts (Csv.records Csv.excel text).rows)))) with
  | error e =>
    cases (Csv.records Csv.excel text).error with
    | some e => simp
    | none => simp [hloop]
  | ok b =>
    cases (Csv.records Csv.excel text).error with
    | some e => simp
    | none => simp [hloop]

/-- A table that has been written is read back. -/
theorem read_written
    (hlen : ∀ row ∈ table, ∀ field ∈ row, field.length ≤ Csv.excel.fieldLimit) :
    Csv.read Csv.excel (Csv.write Csv.excel (table.map fun row => row.map String.toList)) =
      .ok (table.map fun row => row.map String.toList) := by
  refine Csv.read_write fun fields hfields field hfield => ?_
  obtain ⟨row, hrow, rfl⟩ := List.mem_map.mp hfields
  obtain ⟨s, hs, rfl⟩ := List.mem_map.mp hfield
  exact String.length_toList.trans_le (hlen row hrow s hs)

end Tables

/-! ### Files of vendors -/

/-- **What is loaded of a table**: the vendors of its records, in order, if the columns are
there. -/
structure LoadsVendors (table : List (List String)) (vendors : List Vendor) : Prop where
  columns : tableRows table ≠ [] → ∀ name ∈ vendorColumns, name ∈ tableColumns table
  vendors : List.Forall₂ (fun row v => loadVendor (.under (tableColumns table) row) = .ok v)
    (tableRows table) vendors

/-- **When the file of the vendors is loaded**, and what is loaded of it, whatever its text. -/
theorem loadVendorsFile_eq_ok_iff {text : List Char} {vendors : List Vendor} :
    loadVendorsFile text = .ok vendors ↔
      ∃ rows, Csv.read Csv.excel text = .ok rows ∧ LoadsVendors (texts rows) vendors := by
  rw [loadVendorsFile, overRows_eq_ok_iff]
  refine exists_congr fun rows => and_congr_right fun _ => ?_
  rw [mapM_eq_ok, List.forall₂_map_left_iff]
  simp only [loadVendorRow_eq_ok_iff]
  constructor
  · intro h
    refine ⟨fun hne => ?_, h.imp fun _ _ => And.right⟩
    obtain ⟨row, more, hrows⟩ := List.exists_cons_of_ne_nil hne
    rw [hrows] at h
    obtain _ | ⟨⟨hcolumns, -⟩, -⟩ := h
    exact hcolumns
  · rintro ⟨hcolumns, h⟩
    refine (forall₂_mem h).imp fun row v hrow => ⟨?_, hrow.1⟩
    exact hcolumns (List.ne_nil_of_mem hrow.2.1)

/-- **A table that has been written is loaded as it was meant**: whatever is in its cells, and
in whatever order the columns stand. It can be loaded exactly if every record has a field for
the name and for the curves; every record gives the vendor of its cells. -/
theorem vendorsFile_written (columns : List String) (rows : List (List String))
    (hlen : ∀ row ∈ columns :: rows, ∀ field ∈ row, field.length ≤ Csv.excel.fieldLimit)
    (hcolumns : ∀ name ∈ vendorColumns, name ∈ columns) :
    let text := Csv.write Csv.excel ((columns :: rows).map fun row => row.map String.toList)
    ((∃ vendors, loadVendorsFile text = .ok vendors) ↔ ∀ row ∈ rows, row ≠ [] →
      (cellOf columns row "vendor").isSome ∧ (cellOf columns row "curves").isSome) ∧
    ∀ vendors, loadVendorsFile text = .ok vendors ↔
      List.Forall₂ (fun row v => loadVendor (.under columns row) = .ok v)
        (rows.filter (· ≠ [])) vendors := by
  intro text
  have hread : Csv.read Csv.excel text =
      .ok ((columns :: rows).map fun row => row.map String.toList) := read_written hlen
  have hvalue : ∀ vendors, loadVendorsFile text = .ok vendors ↔
      List.Forall₂ (fun row v => loadVendor (.under columns row) = .ok v)
        (rows.filter (· ≠ [])) vendors := by
    intro vendors
    rw [loadVendorsFile_eq_ok_iff, hread]
    constructor
    · rintro ⟨_, ⟨⟩, -, h⟩
      rwa [texts_map_toList] at h
    · intro h
      refine ⟨_, rfl, ?_⟩
      rw [texts_map_toList]
      exact ⟨fun _ => hcolumns, h⟩
  refine ⟨?_, hvalue⟩
  simp only [hvalue, ← mapM_eq_ok]
  constructor
  · rintro ⟨vendors, hvendors⟩ row hrow hne
    exact exists_loadVendor_iff.mp
      (exists_of_mapM_eq_ok hvendors (List.mem_filter.mpr ⟨hrow, by simpa using hne⟩))
  · intro h
    refine exists_mapM fun row hrow => ?_
    obtain ⟨hrow, hne⟩ := List.mem_filter.mp hrow
    exact exists_loadVendor_iff.mpr (h row hrow (by simpa using hne))

/-- A table whose columns stand in an order of their own, with one more among them, and a cell
with everything that a table gives a meaning to. -/
theorem vendorsFile_written_bank : ∃ vendors, loadVendorsFile (Csv.write Csv.excel
    ([["curves", "note", "vendor", "weak_cipher", "static_rsa", "pqc_provider", "pqc", "tls13"],
      ["x25519, secp256r1", "a \"b\",\r\nc", "Bank", "No", "No", "", "No", "Yes"]].map
        fun row => row.map String.toList)) = .ok vendors :=
  (vendorsFile_written
    ["curves", "note", "vendor", "weak_cipher", "static_rsa", "pqc_provider", "pqc", "tls13"]
    [["x25519, secp256r1", "a \"b\",\r\nc", "Bank", "No", "No", "", "No", "Yes"]]
    (by decide) (by decide)).1.mpr (by decide)

/-! ### The generator -/

namespace GenTprmRows

/-- The values that `render_row` computes, of a row. -/
def dictCells (row : DictRow) : Py Cells := do
  -- `derive_tier`
  let tls13 ← yn (← row.getItem "tls13")
  let pqc ← yn (← row.getItem "pqc")
  let staticRsa ← yn (← row.getItem "static_rsa")
  let weakCipher ← yn (← row.getItem "weak_cipher")
  let tier : Tier :=
    if staticRsa || weakCipher || !tls13 then .tier3
    else if tls13 && pqc && !staticRsa && !weakCipher then .tier1
    else .tier2
  -- the same cells are read once more
  let pqcCol ← pqcDisplay (← row.getItem "pqc") ((row.lookup "pqc_provider").getD (some ""))
  let curves ← stripCell (← row.getItem "curves")
  let vendor ← stripCell (← row.getItem "vendor")
  return {
    vendor
    tls13 := yesNo tls13
    pqc := pqcCol
    staticRsa := yesNo staticRsa
    weakCipher := yesNo weakCipher
    curves
    cssClass := tier.text
    label := tier.label }

/-- The loop of `main`: the lines that are printed before a row raises. -/
def printRows : List DictRow → List String × Option Exn
  | [] => ([], none)
  | row :: rows =>
    match dictCells row with
    | .error e => ([], some e)
    | .ok c => (c.text :: (printRows rows).1, (printRows rows).2)

/-- `main`, of the text of the file: what is printed, and what is raised in the end. -/
def printed (text : List Char) : List String × Option FileError :=
  let file := dictReader text
  match printRows file.rows with
  | (lines, some e) => (lines, some (.exn e))
  | (lines, none) => (lines, file.error.map .csv)

section Generator

variable {row : DictRow} {rows : List DictRow} {c : Cells} {lines : List String}

theorem yn_eq_ok {val : Option String} {b : Bool} (h : yn val = .ok b) :
    HybridTls.yn val = b := by
  cases val with
  | none => simp [yn, stripCell] at h
  | some s => exact Except.ok.inj h

theorem pqcDisplay_eq_ok {pqcRaw provider : Option String} {s : String}
    (h : pqcDisplay pqcRaw provider = .ok s) : HybridTls.pqcDisplay pqcRaw provider = s := by
  cases pqcRaw with
  | none => simp [pqcDisplay, stripCell] at h
  | some raw =>
    cases provider with
    | some provider =>
      have heq : pqcDisplay (some raw) (some provider) =
          .ok (HybridTls.pqcDisplay (some raw) (some provider)) := pqcDisplay_eq rfl rfl
      exact Except.ok.inj (heq.symm.trans h)
    | none =>
      -- without a provider there is a label, or there is nothing to display
      have hyn : yn (some (strip raw)) = .ok (HybridTls.yn (some (strip raw))) :=
        yn_of_isSome rfl
      simp only [pqcDisplay, stripCell, bind_eq_ok, Except.ok.injEq, exists_eq_left', hyn] at h
      simp only [HybridTls.pqcDisplay, Option.getD_some]
      split at h
      next hno => rw [if_pos hno]; exact Except.ok.inj h
      next hyes =>
        rw [if_neg hyes]
        cases hlabel : yesLabel (strip raw) with
        | some label => simpa [hlabel] using h
        | none => simp [hlabel] at h

/-- **What the generator renders of a row is loaded.** -/
theorem loadVendorRow_of_dictCells (h : dictCells row = .ok c) :
    ∃ v, loadVendorRow row = .ok v ∧ v.cells = c := by
  simp only [dictCells, bind_eq_ok, pure_eq_ok, Except.ok.injEq] at h
  obtain ⟨tls13, htls13, _, h₁, pqc, hpqc, _, h₂, staticRsa, hstatic, _, h₃, weakCipher, hweak,
    _, h₄, pqc', hpqc', _, hcol, curves, hcurves, shown, h₅, vendor, hvendor, name, h₆, rfl⟩ := h
  obtain rfl : pqc = pqc' := Except.ok.inj (hpqc.symm.trans hpqc')
  obtain rfl := yn_eq_ok h₁
  obtain rfl := yn_eq_ok h₂
  obtain rfl := yn_eq_ok h₃
  obtain rfl := yn_eq_ok h₄
  obtain rfl := pqcDisplay_eq_ok hcol
  have hload : ∃ v, loadVendorRow row = .ok v ∧ v =
      { vendor := name
        tls13 := yesNo (HybridTls.yn tls13)
        pqc := HybridTls.pqcDisplay pqc ((row.lookup "pqc_provider").getD (some ""))
        staticRsa := yesNo (HybridTls.yn staticRsa)
        weakCipher := yesNo (HybridTls.yn weakCipher)
        curves := shown
        tier :=
          HybridTls.deriveTier ⟨vendor, tls13, pqc, none, staticRsa, weakCipher, curves⟩ } := by
    simp only [loadVendorRow, bind_eq_ok, pure_eq_ok, Except.ok.injEq]
    exact ⟨_, ⟨tls13, htls13, pqc, hpqc, staticRsa, hstatic, weakCipher, hweak, vendor, hvendor,
      name, h₆, curves, hcurves, shown, h₅, rfl⟩, rfl⟩
  obtain ⟨v, hv, rfl⟩ := hload
  refine ⟨_, hv, ?_⟩
  simp only [Vendor.cells, HybridTls.deriveTier]

/-- A record that has every cell is rendered as it is loaded. -/
theorem dictCells_of_filled {fieldnames fields : List String} {v : Vendor}
    (hfilled : (VendorRecord.under fieldnames fields).Filled)
    (hv : loadVendorRow (dictRow fieldnames fields) = .ok v) :
    dictCells (dictRow fieldnames fields) = .ok v.cells := by
  have hitem : ∀ name, (cellOf fieldnames fields name).isSome →
      (dictRow fieldnames fields).getItem name = .ok (cellOf fieldnames fields name) := by
    intro name hname
    refine getItem_dictRow_eq_ok_iff.mpr ⟨?_, rfl⟩
    rw [← columnOf_isSome_iff]
    rw [cellOf] at hname
    cases hcolumn : columnOf name fieldnames with
    | none => simp [hcolumn] at hname
    | some i => rfl
  have hprovider : (((dictRow fieldnames fields).lookup "pqc_provider").getD (some "")) =
      cellOf fieldnames fields "pqc_provider" := by
    have hsome := hfilled.pqcProvider
    rw [lookup_dictRow, cellOf]
    simp only [VendorRecord.under, cellOf] at hsome
    cases hcolumn : columnOf "pqc_provider" fieldnames with
    | none => simp [hcolumn] at hsome
    | some i => rfl
  obtain ⟨-, hload⟩ := loadVendorRow_eq_ok_iff.mp hv
  obtain ⟨⟨name, hname, hvendor⟩, htls13, hpqc, hstatic, hweak, htier⟩ := loadVendor_eq_ok hload
  have hcol := pqcDisplay_eq hfilled.pqc hfilled.pqcProvider
  simp only [dictCells, bind_eq_ok, pure_eq_ok, Except.ok.injEq]
  refine ⟨_, hitem _ hfilled.tls13, _, yn_of_isSome hfilled.tls13, _, hitem _ hfilled.pqc, _,
    yn_of_isSome hfilled.pqc, _, hitem _ hfilled.staticRsa, _, yn_of_isSome hfilled.staticRsa, _,
    hitem _ hfilled.weakCipher, _, yn_of_isSome hfilled.weakCipher, _, hitem _ hfilled.pqc, _,
    by rw [hprovider]; exact hcol, _, hitem _ hfilled.curves, _,
    stripCell_of_isSome hfilled.curves, _, hitem _ hfilled.vendor, _,
    stripCell_of_isSome hfilled.vendor, ?_⟩
  have hcurves := loadVendor_curves hload
  simp only [VendorRecord.under] at hname hcurves htls13 hpqc hstatic hweak htier
  simp only [VendorRecord.under, Vendor.cells, hname, hcurves, htls13, hpqc, hstatic, hweak, htier,
    hvendor, HybridTls.deriveTier, Option.getD_some]

theorem printRows_eq (h : printRows rows = (lines, none)) :
    ∃ vendors, rows.mapM loadVendorRow = .ok vendors ∧
      lines = vendors.map fun v => v.cells.text := by
  induction rows generalizing lines with
  | nil =>
    obtain rfl : [] = lines := congrArg Prod.fst h
    exact ⟨[], rfl, rfl⟩
  | cons row rows ih =>
    rw [printRows] at h
    split at h
    next e he => simp at h
    next c hc =>
      obtain ⟨v, hv, rfl⟩ := loadVendorRow_of_dictCells hc
      rw [Prod.mk.injEq] at h
      obtain ⟨vendors, hvendors, hlines⟩ := ih (Prod.ext rfl h.2)
      refine ⟨v :: vendors, mapM_eq_ok.mpr (.cons hv (mapM_eq_ok.mp hvendors)), ?_⟩
      exact h.1.symm.trans (congrArg (v.cells.text :: ·) hlines)

theorem printRows_of_filled {fieldnames : List String} {records : List (List String)}
    {vendors : List Vendor}
    (h : List.Forall₂ (fun fields v => loadVendorRow (dictRow fieldnames fields) = .ok v ∧
      (VendorRecord.under fieldnames fields).Filled) records vendors) :
    printRows (records.map (dictRow fieldnames)) =
      (vendors.map fun v => v.cells.text, none) := by
  induction h with
  | nil => rfl
  | cons hv _ ih => rw [List.map_cons, printRows, dictCells_of_filled hv.2 hv.1, ih, List.map_cons]

end Generator

/-- **The generator and the dashboard agree on a file**, whatever its text: what the generator
prints without raising is loaded, and it has printed the rows of the vendors that are loaded, in
order; and it prints them of every file that is loaded and whose records have every cell. -/
theorem printed_agrees (text : List Char) :
    (∀ lines, printed text = (lines, none) → ∃ vendors, loadVendorsFile text = .ok vendors ∧
      lines = vendors.map fun v => v.cells.text) ∧
    ∀ vendors, loadVendorsFile text = .ok vendors →
      (∀ rows, Csv.read Csv.excel text = .ok rows → ∀ fields ∈ tableRows (texts rows),
        (VendorRecord.under (tableColumns (texts rows)) fields).Filled) →
      printed text = (vendors.map fun v => v.cells.text, none) := by
  constructor
  · intro lines h
    unfold printed at h
    cases hprinted : printRows (dictReader text).rows with
    | mk out e =>
      simp only [hprinted] at h
      cases e with
      | some e => simp at h
      | none =>
        rw [Prod.mk.injEq, Option.map_eq_none_iff] at h
        obtain ⟨rfl, herror⟩ := h
        obtain ⟨vendors, hvendors, hlines⟩ := printRows_eq hprinted
        refine ⟨vendors, ?_, hlines⟩
        rw [loadVendorsFile, overRows, hvendors, herror]
  · intro vendors h hfilled
    obtain ⟨rows, hread, hloads⟩ := overRows_eq_ok_iff.mp h
    rw [mapM_eq_ok, List.forall₂_map_left_iff] at hloads
    have hall := (forall₂_mem hloads).imp fun fields v hv =>
      And.intro hv.1 (hfilled rows hread fields hv.2.1)
    have hrecords : (Csv.records Csv.excel text).rows = rows ∧
        (Csv.records Csv.excel text).error = none := by
      rw [Csv.read] at hread
      split at hread
      next hnone => exact ⟨Except.ok.inj hread, hnone⟩
      next => simp at hread
    rw [printed, rows_dictReader, error_dictReader, hrecords.1, hrecords.2,
      printRows_of_filled hall]
    rfl

end GenTprmRows

/-! ### The inputs of the data owners -/

/-- The record of a row: what `get` finds in it. -/
def HndlRecord.ofRow (row : DictRow) : HndlRecord where
  target := (row.lookup "target").join
  dataSensitivity := (row.lookup "data_sensitivity").join
  retentionYears := (row.lookup "retention_years").join
  remediationCost := (row.lookup "remediation_cost").join

/-- `load_hndl_inputs`, of the text of the file, if there is one. -/
def loadHndlFile (file : Option (List Char)) : Except FileError (Dict String HndlEntry) :=
  match file with
  | none => .ok []
  | some text => overRows (dictReader text) fun rows => loadHndlInputs (rows.map .ofRow)

/-- The cells of a row. -/
def HndlRecord.under (fieldnames row : List String) : HndlRecord where
  target := cellOf fieldnames row "target"
  dataSensitivity := cellOf fieldnames row "data_sensitivity"
  retentionYears := cellOf fieldnames row "retention_years"
  remediationCost := cellOf fieldnames row "remediation_cost"

theorem ofRow_dictRow (fieldnames row : List String) :
    HndlRecord.ofRow (dictRow fieldnames row) = .under fieldnames row := by
  have hcell : ∀ name, ((dictRow fieldnames row).lookup name).join =
      cellOf fieldnames row name := by
    intro name
    rw [lookup_dictRow, cellOf]
    cases columnOf name fieldnames <;> rfl
  simp only [HndlRecord.ofRow, HndlRecord.under, hcell]

/-- **When the file of the inputs is loaded**, and what is loaded of it, whatever its text. -/
theorem loadHndlFile_eq_ok_iff {text : List Char} {d : Dict String HndlEntry} :
    loadHndlFile (some text) = .ok d ↔ ∃ rows, Csv.read Csv.excel text = .ok rows ∧
      (∀ row ∈ tableRows (texts rows),
        (HndlRecord.under (tableColumns (texts rows)) row).Readable) ∧
      d = inputsOf ((tableRows (texts rows)).map (.under (tableColumns (texts rows)))) := by
  have hrows : ∀ rows, loadHndlInputs (((tableRows (texts rows)).map
      (dictRow (tableColumns (texts rows)))).map .ofRow) =
        loadHndlInputs ((tableRows (texts rows)).map (.under (tableColumns (texts rows)))) := by
    intro rows
    rw [List.map_map]
    exact congrArg _ (List.map_congr_left fun row _ => ofRow_dictRow _ row)
  simp only [loadHndlFile, overRows_eq_ok_iff, hrows, loadHndlInputs_eq_ok_iff, List.forall_mem_map]

/-- **A table of inputs that has been written is loaded as it was meant**, unless there is a
retention that cannot be read: every target has the values of its last record. -/
theorem hndlFile_written (columns : List String) (rows : List (List String))
    (hlen : ∀ row ∈ columns :: rows, ∀ field ∈ row, field.length ≤ Csv.excel.fieldLimit) :
    let text := Csv.write Csv.excel ((columns :: rows).map fun row => row.map String.toList)
    let records := (rows.filter (· ≠ [])).map (HndlRecord.under columns)
    ((∃ d, loadHndlFile (some text) = .ok d) ↔ ∀ record ∈ records, record.Readable) ∧
    ∀ d, loadHndlFile (some text) = .ok d → InputsLaws records d := by
  intro text records
  have hread : Csv.read Csv.excel text =
      .ok ((columns :: rows).map fun row => row.map String.toList) := read_written hlen
  have hvalue : ∀ d, loadHndlFile (some text) = .ok d ↔
      (∀ record ∈ records, record.Readable) ∧ d = inputsOf records := by
    intro d
    rw [loadHndlFile_eq_ok_iff, hread]
    constructor
    · rintro ⟨_, ⟨⟩, hreadable, hd⟩
      rw [texts_map_toList] at hreadable hd
      exact ⟨List.forall_mem_map.mpr hreadable, hd⟩
    · rintro ⟨hreadable, hd⟩
      refine ⟨_, rfl, ?_⟩
      rw [texts_map_toList]
      exact ⟨List.forall_mem_map.mp hreadable, hd⟩
  constructor
  · constructor
    · rintro ⟨d, hd⟩
      exact ((hvalue d).mp hd).1
    · intro h
      exact ⟨_, (hvalue _).mpr ⟨h, rfl⟩⟩
  · intro d hd
    obtain ⟨-, rfl⟩ := (hvalue d).mp hd
    exact inputsLaws records

/-- A target with two records: the file is loaded. -/
theorem hndlFile_written_bank : ∃ d, loadHndlFile (some (Csv.write Csv.excel
    ([["target", "data_sensitivity", "retention_years", "remediation_cost"],
      ["Bank", "PII", "eight", "M"], ["Bank", "pii, loans", "8"]].map
        fun row => row.map String.toList))) = .ok d :=
  (hndlFile_written ["target", "data_sensitivity", "retention_years", "remediation_cost"]
    [["Bank", "PII", "eight", "M"], ["Bank", "pii, loans", "8"]] (by decide)).1.mpr
    (by decide +kernel)

end HybridTls

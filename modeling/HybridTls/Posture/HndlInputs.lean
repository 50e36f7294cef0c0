import HybridTls.Posture.Score

/-!
# The inputs of the data owners

`load_hndl_inputs`, which reads for every target how sensitive its data is, how long it
has to stay confidential, and what a migration costs.

A cell may be missing, empty or filled with anything. All that can go wrong is the
retention: it is converted by `int` if `str.isdigit` says that it consists of digits, and
there are digits that `int` does not know, and numbers that are too long for it
(`HybridTls.HndlRecord.Readable`). Such a cell takes the whole file with it. Without one,
every target has the values of its last record (`HybridTls.loadHndlInputs_eq_ok_iff`,
`HybridTls.lookup_inputsOf`).
-/

namespace HybridTls

open Python

/-! ### Records and entries -/

/-- A record of `hndl_inputs.csv`. -/
structure HndlRecord where
  target : Option String
  dataSensitivity : Option String
  retentionYears : Option String
  remediationCost : Option String
  deriving DecidableEq, Repr

/-- What `load_hndl_inputs` returns of a target. -/
structure HndlEntry extends HndlInput where
  remediationCost : Option String
  deriving DecidableEq, Repr

/-- `target`. -/
def HndlRecord.name (row : HndlRecord) : String := strip (row.target.getD "")

/-- `retention_raw`. -/
def HndlRecord.retentionRaw (row : HndlRecord) : String := strip (row.retentionYears.getD "")

/-- `cell.strip().upper() or default`. -/
def upperCell {α : Type} (cell : Option String) (default : α) (filled : String → α) : α :=
  let text := upper (strip (cell.getD ""))
  if text = "" then default else filled text

/-- `int(retention_raw) if retention_raw.isdigit() else None`. -/
def readRetention (retentionRaw : String) : Py (Option ℕ) :=
  if isdigit retentionRaw then some <$> int retentionRaw else .ok none

/-- The entry of a record. -/
def hndlEntry (row : HndlRecord) : Py HndlEntry := do
  return {
    dataSensitivity := upperCell row.dataSensitivity "UNCLASSIFIED" id
    retentionYears := ← readRetention row.retentionRaw
    remediationCost := upperCell row.remediationCost none some }

/-- The body of the loop of `load_hndl_inputs`. -/
def loadHndlRow (inputs : Dict String HndlEntry) (row : HndlRecord) : Py (Dict String HndlEntry) :=
  if row.name = "" then return inputs
  else return inputs.setItem row.name (← hndlEntry row)

/-- `load_hndl_inputs`, of the records of the file; a file that is missing has none. -/
def loadHndlInputs (rows : List HndlRecord) : Py (Dict String HndlEntry) :=
  rows.foldlM loadHndlRow []

/-! ### When the file is loaded -/

/-- **The retention of a record can be read**, or is not looked at: it is not all digits,
or all of them are decimal digits and they are not too many. -/
def HndlRecord.Readable (row : HndlRecord) : Prop :=
  row.name ≠ "" → isdigit row.retentionRaw →
    isdecimal row.retentionRaw ∧ row.retentionRaw.length ≤ intMaxStrDigits

instance : DecidablePred HndlRecord.Readable := fun row =>
  inferInstanceAs (Decidable (row.name ≠ "" → isdigit row.retentionRaw →
    isdecimal row.retentionRaw ∧ row.retentionRaw.length ≤ intMaxStrDigits))

/-- The entry of a record whose retention can be read. -/
def HndlRecord.entry (row : HndlRecord) : HndlEntry where
  dataSensitivity := upperCell row.dataSensitivity "UNCLASSIFIED" id
  retentionYears := if isdecimal row.retentionRaw then some (ofDigits row.retentionRaw) else none
  remediationCost := upperCell row.remediationCost none some

/-- The inputs that are loaded. -/
def inputsOf (rows : List HndlRecord) : Dict String HndlEntry :=
  (rows.filter (·.name ≠ "")).foldl (fun d row => d.setItem row.name row.entry) []

section Load

variable {row : HndlRecord} {rows : List HndlRecord} {d : Dict String HndlEntry} {e : HndlEntry}

theorem readRetention_eq_ok_iff {raw : String} {years : Option ℕ} :
    readRetention raw = .ok years ↔
      (isdigit raw → isdecimal raw ∧ raw.length ≤ intMaxStrDigits) ∧
        years = if isdecimal raw then some (ofDigits raw) else none := by
  rw [readRetention]
  split
  next hdigit =>
    have hmap : some <$> int raw = .ok years ↔ ∃ n, int raw = .ok n ∧ some n = years := by
      cases int raw <;> simp
    rw [hmap]
    simp only [int_eq_ok_iff, hdigit, forall_const]
    constructor
    · rintro ⟨n, ⟨hdecimal, hlen, rfl⟩, rfl⟩
      exact ⟨⟨hdecimal, hlen⟩, (if_pos hdecimal).symm⟩
    · rintro ⟨⟨hdecimal, hlen⟩, rfl⟩
      exact ⟨_, ⟨hdecimal, hlen, rfl⟩, (if_pos hdecimal).symm⟩
  next hdigit =>
    have hdecimal : ¬ isdecimal raw := fun h => hdigit (isdigit_of_isdecimal h)
    rw [if_neg hdecimal, Except.ok.injEq, eq_comm]
    exact ⟨fun h => ⟨fun h => absurd h hdigit, h⟩, fun h => h.2⟩

theorem hndlEntry_eq_ok_iff : hndlEntry row = .ok e ↔
    (isdigit row.retentionRaw →
      isdecimal row.retentionRaw ∧ row.retentionRaw.length ≤ intMaxStrDigits) ∧ e = row.entry := by
  simp only [hndlEntry, bind_eq_ok, pure_eq_ok, Except.ok.injEq, readRetention_eq_ok_iff]
  constructor
  · rintro ⟨years, ⟨h, rfl⟩, rfl⟩
    exact ⟨h, rfl⟩
  · rintro ⟨h, rfl⟩
    exact ⟨_, ⟨h, rfl⟩, rfl⟩

theorem loadHndlRow_eq_ok_iff {d' : Dict String HndlEntry} : loadHndlRow d row = .ok d' ↔
    row.Readable ∧ d' = if row.name = "" then d else d.setItem row.name row.entry := by
  rw [loadHndlRow, HndlRecord.Readable]
  split
  next hnil =>
    rw [pure_eq_ok, Except.ok.injEq, eq_comm]
    exact ⟨fun h => ⟨fun hne => absurd hnil hne, h⟩, fun h => h.2⟩
  next hne =>
    simp only [bind_eq_ok, hndlEntry_eq_ok_iff, pure_eq_ok, Except.ok.injEq, ne_eq, hne,
      not_false_iff, forall_const]
    constructor
    · rintro ⟨_, ⟨h, rfl⟩, rfl⟩
      exact ⟨h, rfl⟩
    · rintro ⟨h, rfl⟩
      exact ⟨_, ⟨h, rfl⟩, rfl⟩

/-- **When the file is loaded**, and what becomes of it. -/
theorem loadHndlInputs_eq_ok_iff :
    loadHndlInputs rows = .ok d ↔ (∀ row ∈ rows, row.Readable) ∧ d = inputsOf rows := by
  -- what has been loaded before varies along the loop
  suffices h : ∀ d₀, rows.foldlM loadHndlRow d₀ = .ok d ↔ (∀ row ∈ rows, row.Readable) ∧
      d = (rows.filter (·.name ≠ "")).foldl (fun d row => d.setItem row.name row.entry) d₀ from h []
  induction rows with
  | nil =>
    intro d₀
    rw [List.foldlM_nil, pure_eq_ok, Except.ok.injEq, eq_comm]
    exact ⟨fun h => ⟨fun _ hrow => absurd hrow List.not_mem_nil, h⟩, fun h => h.2⟩
  | cons row rows ih =>
    intro d₀
    simp only [List.foldlM_cons, bind_eq_ok, loadHndlRow_eq_ok_iff, List.forall_mem_cons]
    constructor
    · rintro ⟨_, ⟨hrow, rfl⟩, hrest⟩
      obtain ⟨hrows, rfl⟩ := (ih _).mp hrest
      refine ⟨⟨hrow, hrows⟩, ?_⟩
      by_cases hnil : row.name = "" <;> simp [hnil]
    · rintro ⟨⟨hrow, hrows⟩, rfl⟩
      refine ⟨_, ⟨hrow, rfl⟩, (ih _).mpr ⟨hrows, ?_⟩⟩
      by_cases hnil : row.name = "" <;> simp [hnil]

/-- **A target has the values of its last record.** -/
theorem lookup_inputsOf (name : String) :
    (inputsOf rows).lookup name =
      (rows.reverse.find? fun row => row.name = name ∧ name ≠ "").map (·.entry) := by
  have hpred : (fun row : HndlRecord => decide (row.name ≠ "" ∧ row.name = name)) =
      fun row => decide (row.name = name ∧ name ≠ "") := by
    ext1 row
    by_cases hname : row.name = name <;> simp [hname]
  rw [inputsOf, Dict.lookup_foldl_setItem, ← List.filter_reverse, List.find?_filter]
  simp only [List.lookup_nil, Option.or_none, decide_eq_true_eq]
  rw [hpred]

end Load

/-! ### What is asked of the inputs -/

/-- The entry of a record has its values: a retention when the cell is a number, and some
sensitivity. -/
structure HndlEntry.Describes (e : HndlEntry) (row : HndlRecord) : Prop where
  retentionYears : e.retentionYears =
    if isdecimal row.retentionRaw then some (ofDigits row.retentionRaw) else none
  dataSensitivity : e.dataSensitivity = upperCell row.dataSensitivity "UNCLASSIFIED" id
  classified : e.dataSensitivity ≠ ""
  remediationCost : e.remediationCost = upperCell row.remediationCost none some

/-- **What is asked of the inputs.** -/
structure InputsLaws (rows : List HndlRecord) (d : Dict String HndlEntry) : Prop where
  keys : ∀ name, (d.lookup name).isSome ↔ name ≠ "" ∧ ∃ row ∈ rows, row.name = name
  last : ∀ name, ∀ e ∈ d.lookup name, ∃ before row after, rows = before ++ row :: after ∧
    row.name = name ∧ (∀ r ∈ after, r.name ≠ name) ∧ e.Describes row

section Laws

variable {rows : List HndlRecord}

theorem upperCell_ne_nil (cell : Option String) : upperCell cell "UNCLASSIFIED" id ≠ "" := by
  rw [upperCell]
  split
  · decide
  next hne => exact hne

theorem HndlRecord.describes_entry (row : HndlRecord) : row.entry.Describes row := by
  constructor
  · simp only [HndlRecord.entry]
  · simp only [HndlRecord.entry]
  · simp only [HndlRecord.entry]
    exact upperCell_ne_nil row.dataSensitivity
  · simp only [HndlRecord.entry]

theorem inputsLaws (rows : List HndlRecord) : InputsLaws rows (inputsOf rows) where
  keys name := by
    rw [lookup_inputsOf, Option.isSome_map, List.find?_isSome]
    simp only [List.mem_reverse, decide_eq_true_eq]
    constructor
    · rintro ⟨row, hrow, hname, hne⟩
      exact ⟨hne, row, hrow, hname⟩
    · rintro ⟨hne, row, hrow, hname⟩
      exact ⟨row, hrow, hname, hne⟩
  last name e he := by
    rw [lookup_inputsOf, Option.mem_def, Option.map_eq_some_iff] at he
    obtain ⟨row, hrow, rfl⟩ := he
    obtain ⟨hname, after, before, hsplit, hnot⟩ := List.find?_eq_some_iff_append.mp hrow
    simp only [decide_eq_true_eq] at hname
    refine ⟨before.reverse, row, after.reverse, ?_, hname.1, fun r hr heq => ?_,
      row.describes_entry⟩
    · rw [← List.reverse_reverse rows, hsplit]
      simp
    · have := hnot r (List.mem_reverse.mp hr)
      simp [heq, hname.2] at this

/-- **When loading the inputs is tolerant**: exactly when there is no retention that
`str.isdigit` takes for a number and `int` does not. -/
theorem loadHndlInputs_tolerant_iff (rows : List HndlRecord) :
    (∃ d, loadHndlInputs rows = .ok d ∧ InputsLaws rows d) ↔ ∀ row ∈ rows, row.Readable := by
  constructor
  · rintro ⟨d, hd, -⟩
    exact (loadHndlInputs_eq_ok_iff.mp hd).1
  · intro h
    exact ⟨_, loadHndlInputs_eq_ok_iff.mpr ⟨h, rfl⟩, inputsLaws rows⟩

/-- A retention of two, written as a superscript, and a good record behind it: nothing is
loaded. -/
theorem loadHndlInputs_not_tolerant :
    loadHndlInputs [⟨some "Bank", some "PII", some "²", some "M"⟩,
        ⟨some "Insurer", some "PII", some "8", some "S"⟩] = .error .valueError ∧
      ¬ ∃ d, loadHndlInputs [⟨some "Bank", some "PII", some "²", some "M"⟩,
        ⟨some "Insurer", some "PII", some "8", some "S"⟩] = .ok d := by
  have herror : loadHndlInputs [⟨some "Bank", some "PII", some "²", some "M"⟩,
      ⟨some "Insurer", some "PII", some "8", some "S"⟩] = .error .valueError := by
    decide +kernel
  refine ⟨herror, ?_⟩
  rintro ⟨d, hd⟩
  rw [herror] at hd
  cases hd

end Laws

end HybridTls

import HybridTls.Posture.Roadmap

/-!
# What is held back from the ranking

The page of the roadmap lists the targets that are held back as those whose sensitivity,
retention or cost is missing in `hndl_inputs.csv`. From a file that is loaded, that is
how it is for the sensitivity and the retention. A cost, though, is looked up, and a label
that has no weight is not found: its target is held back with all its cells filled in
(`HybridTls.price_inputsOf_isNone_iff`). The page is right about a file exactly when that
does not happen (`HybridTls.needsInput_iff`).
-/

namespace HybridTls

open Python

/-! ### What is missing -/

/-- The record that counts for a target: the last one that has its name. -/
def inputRow (rows : List HndlRecord) (name : String) : Option HndlRecord :=
  rows.reverse.find? fun row => row.name = name ∧ name ≠ ""

/-- The label of the cost. -/
def HndlRecord.costLabel (row : HndlRecord) : String := upper (strip (row.remediationCost.getD ""))

/-- The three cells of a record are filled in. -/
structure HndlRecord.Filled (row : HndlRecord) : Prop where
  dataSensitivity : strip (row.dataSensitivity.getD "") ≠ ""
  classified : upper (strip (row.dataSensitivity.getD "")) ≠ "UNCLASSIFIED"
  retentionYears : isdecimal row.retentionRaw
  remediationCost : strip (row.remediationCost.getD "") ≠ ""

/-- **Input is missing** of a target: it has no record, or one that is not filled in. -/
def MissingInput (rows : List HndlRecord) (t : Target) : Prop :=
  ∀ row ∈ inputRow rows t.target, ¬ row.Filled

/-- **What the page says** of some targets and a file: the file is loaded, a target is
held back exactly if input of it is missing, and the others are ranked. -/
def HeldBackRightly (year : ℤ) (rows : List HndlRecord) (targets : List Target) : Prop :=
  ∃ inputs, loadHndlInputs rows = .ok inputs ∧
    let roadmap := buildRoadmap (buildExposure year targets inputs)
    ∀ t ∈ targets,
      (exposeTarget year inputs t ∈ roadmap.needsInput ↔ MissingInput rows t) ∧
        (¬ MissingInput rows t →
          exposeTarget year inputs t ∈ roadmap.prioritized.map (·.toExposureRecord))

/-! ### What is held back -/

section HeldBack

variable {year : ℤ} {rows : List HndlRecord} {row : HndlRecord} {targets : List Target} {t : Target}
  {inputs : Dict String HndlEntry}

theorem stubOf_inputsOf (t : Target) :
    stubOf (inputsOf rows) t = ((inputRow rows t.target).map (·.entry)).getD .default := by
  rw [stubOf, lookup_inputsOf, inputRow]

theorem entry_dataSensitivity_eq_iff : row.entry.dataSensitivity = "UNCLASSIFIED" ↔
    strip (row.dataSensitivity.getD "") = "" ∨
      upper (strip (row.dataSensitivity.getD "")) = "UNCLASSIFIED" := by
  simp only [HndlRecord.entry, upperCell, upper_eq_nil_iff]
  split
  next hnil => simp [hnil]
  next hne => simp [hne]

theorem entry_retentionYears_eq_none_iff :
    row.entry.retentionYears = none ↔ isdecimal row.retentionRaw = false := by
  simp only [HndlRecord.entry]
  cases isdecimal row.retentionRaw with
  | false => simp
  | true => simp

theorem entry_remediationCost_getD : row.entry.remediationCost.getD "" = row.costLabel := by
  simp only [HndlRecord.entry, upperCell, HndlRecord.costLabel]
  split
  next hnil => rw [hnil, Option.getD_none]
  next => rw [Option.getD_some]

theorem lookup_remediationCostWeight_eq_none_iff {label : String} :
    remediationCostWeight.lookup label = none ↔ label ∉ ["S", "M", "L"] := by
  simp only [remediationCostWeight, Dict.lookup_cons, List.lookup_nil]
  split_ifs <;> simp_all

/-- **What is held back**: a target that has no record, or one that is not filled in, or
one whose cost has no weight. -/
theorem price_inputsOf_isNone_iff : (price (exposeTarget year (inputsOf rows) t)).isNone ↔
    ∀ row ∈ inputRow rows t.target, ¬ (row.Filled ∧ row.costLabel ∈ ["S", "M", "L"]) := by
  have hcost : (exposeTarget year (inputsOf rows) t).remediationCost =
      (stubOf (inputsOf rows) t).remediationCost := rfl
  rw [price_isNone_iff, exposureStatus_eq_unclassified_iff, hcost, stubOf_inputsOf]
  cases hrow : inputRow rows t.target with
  | none => simp [HndlEntry.default]
  | some row =>
    simp only [Option.map_some, Option.getD_some, Option.mem_some_iff, forall_eq',
      entry_retentionYears_eq_none_iff, entry_dataSensitivity_eq_iff, entry_remediationCost_getD,
      lookup_remediationCostWeight_eq_none_iff, not_and]
    constructor
    · rintro ((hretention | hnil | hunclassified) | hlabel) hfilled
      · exact absurd hfilled.retentionYears (by simp [hretention])
      · exact absurd hnil hfilled.dataSensitivity
      · exact absurd hunclassified hfilled.classified
      · exact hlabel
    · intro h
      by_contra hnot
      simp only [not_or, Bool.not_eq_false, not_not] at hnot
      obtain ⟨⟨hretention, hne, hclassified⟩, hlabel⟩ := hnot
      refine h ⟨hne, hclassified, hretention, fun hnil => ?_⟩ hlabel
      -- an empty cell has no weight
      rw [HndlRecord.costLabel, upper_eq_nil_iff.mpr hnil] at hlabel
      exact absurd hlabel (by decide)

theorem mem_needsInput_iff (ht : t ∈ targets) :
    exposeTarget year inputs t ∈ (buildRoadmap (buildExposure year targets inputs)).needsInput ↔
      (price (exposeTarget year inputs t)).isNone := by
  rw [buildRoadmap_eq, buildExposure, List.mem_filter]
  exact and_iff_right (List.mem_map_of_mem ht)

theorem mem_prioritized_of_price (ht : t ∈ targets)
    (h : ¬ (price (exposeTarget year inputs t)).isNone) : exposeTarget year inputs t ∈
      (buildRoadmap (buildExposure year targets inputs)).prioritized.map (·.toExposureRecord) := by
  rw [Option.isNone_iff_eq_none] at h
  obtain ⟨e, he⟩ := Option.ne_none_iff_exists'.mp h
  rw [buildRoadmap_eq, List.mem_map]
  refine ⟨e, Ranking.mem_rankBy.mpr (List.mem_filterMap.mpr ⟨_, ?_, he⟩), (priced_of_price he).2⟩
  exact List.mem_map_of_mem ht

/-- **When only targets with missing input are held back**: exactly when the file can be
read, and the cost of every target whose record is filled in has one of the three labels
that have a weight. -/
theorem needsInput_iff (year : ℤ) (rows : List HndlRecord) (targets : List Target) :
    HeldBackRightly year rows targets ↔ (∀ row ∈ rows, row.Readable) ∧
      ∀ t ∈ targets, ∀ row ∈ inputRow rows t.target, row.Filled →
        row.costLabel ∈ ["S", "M", "L"] := by
  constructor
  · rintro ⟨inputs, hload, h⟩
    obtain ⟨hreadable, rfl⟩ := loadHndlInputs_eq_ok_iff.mp hload
    refine ⟨hreadable, fun t ht row hrow hfilled => ?_⟩
    -- a filled record is not missing, so that its target is not held back
    have hnot : ¬ MissingInput rows t := fun hmissing => hmissing row hrow hfilled
    rw [← (h t ht).1, mem_needsInput_iff ht, price_inputsOf_isNone_iff] at hnot
    by_contra hlabel
    refine hnot fun row' hrow' hboth => ?_
    obtain rfl := Option.some.inj (hrow.symm.trans hrow')
    exact hlabel hboth.2
  · rintro ⟨hreadable, hlabels⟩
    refine ⟨_, loadHndlInputs_eq_ok_iff.mpr ⟨hreadable, rfl⟩, fun t ht => ?_⟩
    have hheld : (price (exposeTarget year (inputsOf rows) t)).isNone ↔ MissingInput rows t := by
      rw [price_inputsOf_isNone_iff, MissingInput]
      refine forall₂_congr fun row hrow => not_congr ?_
      exact and_iff_left_of_imp (hlabels t ht row hrow)
    refine ⟨(mem_needsInput_iff ht).trans hheld, fun hmissing => ?_⟩
    exact mem_prioritized_of_price ht fun hnone => hmissing (hheld.mp hnone)

/-- A bank whose three cells are filled in, with a cost that is high: it is held back. -/
theorem needsInput_bank :
    ¬ HeldBackRightly 2025 [⟨some "Bank", some "PII", some "15", some "H"⟩] [bankTarget] := by
  rintro ⟨inputs, hload, h⟩
  obtain ⟨-, rfl⟩ := loadHndlInputs_eq_ok_iff.mp hload
  have hheld : exposeTarget 2025 (inputsOf [⟨some "Bank", some "PII", some "15", some "H"⟩])
      bankTarget ∈ (buildRoadmap (buildExposure 2025 [bankTarget]
        (inputsOf [⟨some "Bank", some "PII", some "15", some "H"⟩]))).needsInput := by
    rw [mem_needsInput_iff List.mem_cons_self]
    decide +kernel
  refine (h bankTarget List.mem_cons_self).1.mp hheld _ rfl ⟨?_, ?_, ?_, ?_⟩ <;> decide +kernel

end HeldBack

end HybridTls

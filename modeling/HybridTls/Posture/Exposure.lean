import HybridTls.Posture.HndlInputs
import HybridTls.Posture.Targets

/-!
# The exposure of the targets

`build_exposure`, which joins the targets with the inputs of the data owners, and
`exposure_summary`, which counts what comes out.

The status of a target depends on its tier and its input, and on nothing else: the year in
which the retention ends and the year in which the threat begins are both counted from the
current one, so that it cancels (`HybridTls.exposureStatus_eq`). From this form of the
status one reads off what a longer retention does (`HybridTls.exposure_monotone`), and
that the threshold is the one of the score.
-/

namespace HybridTls

open Python

/-! ### Records -/

/-- The values of `exposure_status`. -/
inductive ExposureStatus where
  | unclassified
  | exposed
  | lowUrgency
  | notExposed
  deriving DecidableEq, Repr

/-- `exposure_status`. -/
def ExposureStatus.text : ExposureStatus → String
  | .unclassified => "UNCLASSIFIED — needs data owner input"
  | .exposed => "EXPOSED"
  | .lowUrgency => "LOW URGENCY — retention ends before estimated threat window"
  | .notExposed => "NOT EXPOSED — posture or sensitivity clear"

/-- A record that `build_exposure` returns. -/
structure ExposureRecord extends Target where
  dataSensitivity : String
  retentionYears : Option ℕ
  remediationCost : Option String
  exposureClosesYear : Option ℤ
  exposureStatus : ExposureStatus
  deriving DecidableEq, Repr

/-- `CRQC_ARRIVAL_YEARS_MIN`. -/
def crqcArrivalYearsMin : ℕ := 8

/-- `CRQC_ARRIVAL_YEARS_MAX`. -/
def crqcArrivalYearsMax : ℕ := 15

/-- The entry of a target that has none. -/
def HndlEntry.default : HndlEntry where
  dataSensitivity := "UNCLASSIFIED"
  retentionYears := none
  remediationCost := none

/-- `stub`. -/
def stubOf (inputs : Dict String HndlEntry) (t : Target) : HndlEntry :=
  (inputs.lookup t.target).getD .default

/-- The body of the loop of `build_exposure`, in a year. -/
def exposeTarget (year : ℤ) (inputs : Dict String HndlEntry) (t : Target) : ExposureRecord :=
  let stub := stubOf inputs t
  let postureAtRisk := t.tier ≠ .tier1
  let sensitivityAtRisk := ¬ ["UNCLASSIFIED", "NONE"].contains stub.dataSensitivity
  let exposureClosesYear := stub.retentionYears.map fun years => year + years
  let stillConfidentialAtThreat := exposureClosesYear.any (year + crqcArrivalYearsMin ≤ ·)
  let status : ExposureStatus :=
    if stub.retentionYears.isNone ∨ stub.dataSensitivity = "UNCLASSIFIED" then .unclassified
    else if postureAtRisk ∧ sensitivityAtRisk ∧ stillConfidentialAtThreat then .exposed
    else if postureAtRisk ∧ sensitivityAtRisk ∧ ¬ stillConfidentialAtThreat then .lowUrgency
    else .notExposed
  { t with
    dataSensitivity := stub.dataSensitivity
    retentionYears := stub.retentionYears
    remediationCost := stub.remediationCost
    exposureClosesYear
    exposureStatus := status }

/-- `build_exposure`, in a year. -/
def buildExposure (year : ℤ) (targets : List Target) (inputs : Dict String HndlEntry) :
    List ExposureRecord :=
  targets.map (exposeTarget year inputs)

/-- What `exposure_summary` returns. -/
structure ExposureSummary where
  total : ℕ
  exposed : ℕ
  unclassified : ℕ
  threatWindow : String
  deriving DecidableEq, Repr

/-- `exposure_summary`. -/
def exposureSummary (records : List ExposureRecord) : ExposureSummary where
  total := records.length
  exposed := records.countP (·.exposureStatus.text = "EXPOSED")
  unclassified := records.countP fun r => contains r.exposureStatus.text "UNCLASSIFIED"
  threatWindow := toString crqcArrivalYearsMin ++ "-" ++ toString crqcArrivalYearsMax ++
    " years (assumption, see docs)"

/-! ### The status -/

/-- The texts tell the statuses apart. -/
theorem ExposureStatus.text_eq_exposed_iff {s : ExposureStatus} :
    s.text = "EXPOSED" ↔ s = .exposed := by
  cases s <;> decide

theorem ExposureStatus.contains_unclassified_iff {s : ExposureStatus} :
    contains s.text "UNCLASSIFIED" ↔ s = .unclassified := by
  cases s <;> decide +kernel

/-- The target has a classified input, and is at risk. -/
def AtRisk (t : Target) (stub : HndlEntry) : Prop :=
  t.tier ≠ .tier1 ∧ stub.dataSensitivity ≠ "UNCLASSIFIED" ∧ stub.dataSensitivity ≠ "NONE"

instance (t : Target) (stub : HndlEntry) : Decidable (AtRisk t stub) :=
  inferInstanceAs (Decidable (_ ∧ _ ∧ _))

section Status

variable {year : ℤ} {inputs : Dict String HndlEntry} {t : Target}

/-- **The status does not depend on the year.** -/
theorem exposureStatus_eq : (exposeTarget year inputs t).exposureStatus =
    match (stubOf inputs t).retentionYears with
    | none => .unclassified
    | some years =>
      if (stubOf inputs t).dataSensitivity = "UNCLASSIFIED" then .unclassified
      else if AtRisk t (stubOf inputs t) then
        if crqcArrivalYearsMin ≤ years then .exposed else .lowUrgency
      else .notExposed := by
  simp only [exposeTarget]
  cases (stubOf inputs t).retentionYears with
  | none => simp
  | some years =>
    have hrisk : (t.tier ≠ .tier1 ∧ ¬ (["UNCLASSIFIED", "NONE"].contains
        (stubOf inputs t).dataSensitivity) = true) ↔ AtRisk t (stubOf inputs t) := by
      simp [AtRisk]
    simp only [Option.isNone_some, Bool.false_eq_true, false_or, ← and_assoc, hrisk]
    split
    · rfl
    · by_cases hat : AtRisk t (stubOf inputs t) <;>
        by_cases hyears : crqcArrivalYearsMin ≤ years <;> simp [hat, hyears]

/-- A target is unclassified if it has no retention or no sensitivity. -/
theorem exposureStatus_eq_unclassified_iff :
    (exposeTarget year inputs t).exposureStatus = .unclassified ↔
      (stubOf inputs t).retentionYears = none ∨
        (stubOf inputs t).dataSensitivity = "UNCLASSIFIED" := by
  rw [exposureStatus_eq]
  cases (stubOf inputs t).retentionYears with
  | none => simp
  | some years =>
    simp only [reduceCtorEq, false_or]
    split_ifs <;> simp_all

end Status

/-! ### Longer retentions -/

/-- A retention is no longer than another: both are unknown, or both are numbers. -/
def RetentionLe : Option ℕ → Option ℕ → Prop
  | none, none => True
  | some years, some years' => years ≤ years'
  | _, _ => False

/-- **Inputs with longer retentions**: they have the same targets with the same
sensitivities. -/
def InputsLe (inputs inputs' : Dict String HndlEntry) : Prop := ∀ name, Option.Rel
  (fun e e' => e.dataSensitivity = e'.dataSensitivity ∧
    RetentionLe e.retentionYears e'.retentionYears) (inputs.lookup name) (inputs'.lookup name)

/-- The status of a target whose posture and sensitivity are a risk. -/
def ExposureStatus.Risky (s : ExposureStatus) : Prop := s = .exposed ∨ s = .lowUrgency

/-- What a longer retention may do to a status. -/
structure ExposureStatus.Le (s s' : ExposureStatus) : Prop where
  exposed : s = .exposed → s' = .exposed
  risky : s.Risky ↔ s'.Risky
  unclassified : s = .unclassified ↔ s' = .unclassified

section Longer

variable {inputs inputs' : Dict String HndlEntry} {t : Target}

theorem stubOf_le (h : InputsLe inputs inputs') (t : Target) :
    (stubOf inputs t).dataSensitivity = (stubOf inputs' t).dataSensitivity ∧
      RetentionLe (stubOf inputs t).retentionYears (stubOf inputs' t).retentionYears := by
  have hrel := h t.target
  rw [stubOf, stubOf]
  generalize inputs.lookup t.target = stub, inputs'.lookup t.target = stub' at hrel
  cases hrel with
  | some hentries => exact hentries
  | none => exact ⟨rfl, trivial⟩

/-- **A longer retention exposes.** -/
theorem exposureStatus_le (h : InputsLe inputs inputs') (t : Target) (year year' : ℤ) :
    (exposeTarget year inputs t).exposureStatus.Le
      (exposeTarget year' inputs' t).exposureStatus := by
  obtain ⟨hsens, hretention⟩ := stubOf_le h t
  have hrisk : AtRisk t (stubOf inputs t) ↔ AtRisk t (stubOf inputs' t) := by
    rw [AtRisk, AtRisk, hsens]
  rw [exposureStatus_eq, exposureStatus_eq]
  cases hyears : (stubOf inputs t).retentionYears with
  | none =>
    cases hyears' : (stubOf inputs' t).retentionYears with
    | none => exact ⟨id, Iff.rfl, Iff.rfl⟩
    | some years' => simp [hyears, hyears', RetentionLe] at hretention
  | some years =>
    cases hyears' : (stubOf inputs' t).retentionYears with
    | none => simp [hyears, hyears', RetentionLe] at hretention
    | some years' =>
      simp only [hyears, hyears', RetentionLe] at hretention
      simp only [hsens, hrisk]
      split
      · exact ⟨id, Iff.rfl, Iff.rfl⟩
      split
      · -- at risk: only the threshold can be passed
        split
        next hle =>
          rw [if_pos (Nat.le_trans hle hretention)]
          exact ⟨id, Iff.rfl, Iff.rfl⟩
        next =>
          split
          · exact ⟨by simp, by simp [ExposureStatus.Risky], by simp⟩
          · exact ⟨id, Iff.rfl, Iff.rfl⟩
      · exact ⟨id, Iff.rfl, Iff.rfl⟩

/-- The threshold is the one of the score. -/
theorem f3_ge_iff (years : ℕ) (sens : String) :
    18 ≤ (f3 (some years) sens).1 ↔ crqcArrivalYearsMin ≤ years := by
  simp only [f3, crqcArrivalYearsMin]
  split_ifs <;> simp <;> omega

/-- **What is asked of the exposure** of targets, of two inputs and in two years. -/
structure ExposureLaws (targets : List Target) (inputs inputs' : Dict String HndlEntry)
    (year year' : ℤ) : Prop where
  /-- Every target has one record, in order. -/
  records : (buildExposure year targets inputs).map (·.toTarget) = targets
  monotone : List.Forall₂ (fun r r' => r.toTarget = r'.toTarget ∧
      r.exposureStatus.Le r'.exposureStatus)
    (buildExposure year targets inputs) (buildExposure year' targets inputs')
  exposed : (exposureSummary (buildExposure year targets inputs)).exposed ≤
    (exposureSummary (buildExposure year' targets inputs')).exposed
  unclassified : (exposureSummary (buildExposure year targets inputs)).unclassified =
    (exposureSummary (buildExposure year' targets inputs')).unclassified
  /-- The year does not matter. -/
  clock : (buildExposure year targets inputs).map (·.exposureStatus) =
    (buildExposure year' targets inputs).map (·.exposureStatus)
  /-- Of a target at risk, the score's retention factor says the same. -/
  score : ∀ t ∈ targets, ∀ stub ∈ inputs.lookup t.target, AtRisk t stub →
    ∀ years ∈ stub.retentionYears, ∀ sens,
      (exposeTarget year inputs t).exposureStatus = .exposed ↔ 18 ≤ (f3 (some years) sens).1

theorem exposureStatus_of_atRisk {stub : HndlEntry} {years : ℕ} {year : ℤ}
    (hstub : inputs.lookup t.target = some stub) (hrisk : AtRisk t stub)
    (hyears : stub.retentionYears = some years) :
    (exposeTarget year inputs t).exposureStatus = .exposed ↔ crqcArrivalYearsMin ≤ years := by
  have heq : stubOf inputs t = stub := by rw [stubOf, hstub, Option.getD_some]
  rw [exposureStatus_eq, heq, hyears]
  simp only [if_neg hrisk.2.1, if_pos hrisk]
  split <;> simp_all

/-- **The exposure is monotone in the retention**, does not depend on the clock, and agrees
with the score. -/
theorem exposure_monotone (h : InputsLe inputs inputs') (targets : List Target) (year year' : ℤ) :
    ExposureLaws targets inputs inputs' year year' := by
  have hall : List.Forall₂ (fun r r' => r.toTarget = r'.toTarget ∧
      r.exposureStatus.Le r'.exposureStatus)
      (buildExposure year targets inputs) (buildExposure year' targets inputs') := by
    rw [buildExposure, buildExposure, List.forall₂_map_left_iff, List.forall₂_map_right_iff,
      List.forall₂_same]
    exact fun t _ => ⟨rfl, exposureStatus_le h t year year'⟩
  exact {
    records := by
      rw [buildExposure, List.map_map]
      exact List.map_id targets
    monotone := hall
    exposed := countP_le_of_forall₂ hall fun r r' hr hexposed => by
      simp only [decide_eq_true_eq, ExposureStatus.text_eq_exposed_iff] at hexposed ⊢
      exact hr.2.exposed hexposed
    unclassified := countP_eq_of_forall₂ hall fun r r' hr => by
      simp only [ExposureStatus.contains_unclassified_iff]
      exact hr.2.unclassified
    clock := by
      rw [buildExposure, buildExposure, List.map_map, List.map_map]
      refine List.map_congr_left fun t _ => ?_
      rw [Function.comp_apply, Function.comp_apply, exposureStatus_eq, exposureStatus_eq]
    score := fun t _ stub hstub hrisk years hyears sens => by
      rw [f3_ge_iff]
      exact exposureStatus_of_atRisk hstub hrisk hyears }

end Longer

/-- A target in the second tier. -/
def bankTarget : Target :=
  Vendor.toTarget ⟨"Bank", "Yes", "No", "No", "No", "X25519", .tier2⟩

/-- Its input, with a retention. -/
def retained (years : ℕ) : Dict String HndlEntry := [("Bank", ⟨⟨"PII", some years⟩, some "M"⟩)]

/-- Ten years instead of five: the data is exposed. -/
theorem exposure_monotone_bank :
    ExposureLaws [bankTarget] (retained 5) (retained 10) 2025 2026 := by
  refine exposure_monotone (fun name => ?_) [bankTarget] 2025 2026
  rw [retained, retained, Dict.lookup_cons, Dict.lookup_cons]
  split
  · exact .some ⟨rfl, (by decide : 5 ≤ 10)⟩
  · exact .none

example : (buildExposure 2025 [bankTarget] (retained 5)).map (·.exposureStatus) = [.lowUrgency] ∧
    (buildExposure 2026 [bankTarget] (retained 10)).map (·.exposureStatus) = [.exposed] := by
  decide +kernel

end HybridTls

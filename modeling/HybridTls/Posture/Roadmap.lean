import HybridTls.Lib.Ranking
import HybridTls.Posture.Exposure

/-!
# The roadmap

`build_roadmap`, which ranks the records of the exposure by urgency per cost and holds
back those that cannot be ranked.

A record is held back if its status is unclassified or if its cost has no weight
(`HybridTls.price`). The score is rounded to two decimals before it is sorted by. There
are nine quotients of an urgency and a weight, and rounding keeps the order of any two of
them (`HybridTls.priorityScore_le_iff`), so the ranking is the one by the exact quotient
(`HybridTls.RoadmapLaws`).

What the data owners have to fill in is another matter: a cost that is filled in with a
label that has no weight is held back like one that is missing
(`HybridTls.needsInput_iff`).
-/

namespace HybridTls

open Python Ranking

/-! ### The roadmap -/

/-- `REMEDIATION_COST_WEIGHT`. -/
def remediationCostWeight : Dict String ℕ := [("S", 1), ("M", 3), ("L", 8)]

/-- `STATUS_WEIGHT`. -/
def statusWeight : Dict String ℕ :=
  [("EXPOSED", 3), ("LOW URGENCY — retention ends before estimated threat window", 1),
    ("NOT EXPOSED — posture or sensitivity clear", 0)]

/-- A record that is ranked. -/
structure RoadmapEntry extends ExposureRecord where
  priorityScore : ℚ
  costWeight : ℕ
  deriving DecidableEq, Repr

/-- `STATUS_WEIGHT.get(r["exposure_status"], 0)`. -/
def urgency (r : ExposureRecord) : ℕ := (statusWeight.lookup r.exposureStatus.text).getD 0

/-- `score`. -/
def priority (urgency cost : ℕ) : ℚ := if cost ≠ 0 then Binary64.fl ((urgency : ℚ) / cost) else 0

/-- The entry of a record in `rankable`, unless it is held back. -/
def price (r : ExposureRecord) : Option RoadmapEntry :=
  if contains r.exposureStatus.text "UNCLASSIFIED" then none
  else match remediationCostWeight.lookup (r.remediationCost.getD "") with
    | none => none
    | some cost =>
      some { r with
        priorityScore := Binary64.round (priority (urgency r) cost) 2
        costWeight := cost }

/-- What `build_roadmap` returns. -/
structure Roadmap where
  prioritized : List RoadmapEntry
  needsInput : List ExposureRecord
  deriving DecidableEq, Repr

/-- The body of the loop of `build_roadmap`: the record is appended to one of the lists. -/
def roadmapStep (acc : Roadmap) (r : ExposureRecord) : Roadmap :=
  match price r with
  | some e => { acc with prioritized := acc.prioritized ++ [e] }
  | none => { acc with needsInput := acc.needsInput ++ [r] }

/-- `build_roadmap`. -/
def buildRoadmap (records : List ExposureRecord) : Roadmap :=
  let roadmap := records.foldl roadmapStep ⟨[], []⟩
  -- with `reverse=True`, equal scores stay in order too
  { roadmap with prioritized := rankBy (·.priorityScore) roadmap.prioritized }

section Loop

variable {records : List ExposureRecord} {r : ExposureRecord} {e : RoadmapEntry}

/-- **What the loop has collected.** -/
theorem foldl_roadmapStep (records : List ExposureRecord) (acc : Roadmap) :
    records.foldl roadmapStep acc =
      ⟨acc.prioritized ++ records.filterMap price,
        acc.needsInput ++ records.filter fun r => (price r).isNone⟩ := by
  induction records generalizing acc with
  | nil => simp
  | cons r records ih =>
    rw [List.foldl_cons, ih, roadmapStep]
    cases hprice : price r with
    | none => simp [hprice]
    | some e => simp [hprice]

theorem buildRoadmap_eq (records : List ExposureRecord) :
    buildRoadmap records =
      ⟨rankBy (·.priorityScore) (records.filterMap price),
        records.filter fun r => (price r).isNone⟩ := by
  simp only [buildRoadmap, foldl_roadmapStep, List.nil_append]

/-- **What an entry is**: its record, the weight of the record's cost, and the quotient,
rounded. -/
theorem price_eq_some_iff : price r = some e ↔ r.exposureStatus ≠ .unclassified ∧
    ∃ cost, remediationCostWeight.lookup (r.remediationCost.getD "") = some cost ∧
      e = { r with
        priorityScore := Binary64.round (priority (urgency r) cost) 2
        costWeight := cost } := by
  rw [price]
  split
  next h =>
    rw [ExposureStatus.contains_unclassified_iff] at h
    simp [h]
  next h =>
    rw [ExposureStatus.contains_unclassified_iff] at h
    cases remediationCostWeight.lookup (r.remediationCost.getD "") with
    | none => simp
    | some cost => simp [h, eq_comm]

theorem price_isNone_iff : (price r).isNone ↔ r.exposureStatus = .unclassified ∨
    remediationCostWeight.lookup (r.remediationCost.getD "") = none := by
  rw [Option.isNone_iff_eq_none, ← not_iff_not, ← ne_eq, Option.ne_none_iff_exists']
  simp only [price_eq_some_iff, not_or]
  constructor
  · rintro ⟨_, hstatus, cost, hcost, -⟩
    exact ⟨hstatus, by simp [hcost]⟩
  · rintro ⟨hstatus, hcost⟩
    obtain ⟨cost, hcost⟩ := Option.ne_none_iff_exists'.mp hcost
    exact ⟨_, hstatus, cost, hcost, rfl⟩

end Loop

/-! ### The scores -/

/-- The exact quotient of an entry. -/
def RoadmapEntry.exactScore (e : RoadmapEntry) : ℚ :=
  (urgency e.toExposureRecord : ℚ) / e.costWeight

section Score

variable {r r' : ExposureRecord} {e e' : RoadmapEntry}

theorem urgency_mem (r : ExposureRecord) : urgency r ∈ [3, 1, 0] := by
  rw [urgency]
  cases r.exposureStatus <;> decide +kernel

theorem costWeight_mem {label : String} {cost : ℕ}
    (h : remediationCostWeight.lookup label = some cost) : cost ∈ [1, 3, 8] := by
  simp only [remediationCostWeight, Dict.lookup_cons, List.lookup_nil] at h
  split_ifs at h <;> simp_all

/-- **Rounding keeps the order** of the quotients there are. -/
theorem round_priority_le_iff : ∀ u ∈ [3, 1, 0], ∀ c ∈ [1, 3, 8], ∀ u' ∈ [3, 1, 0],
    ∀ c' ∈ [1, 3, 8], Binary64.round (priority u c) 2 ≤ Binary64.round (priority u' c') 2 ↔
      (u : ℚ) / c ≤ (u' : ℚ) / c' := by
  decide +kernel

/-- What holds of an entry that has been priced. -/
structure RoadmapEntry.Priced (e : RoadmapEntry) : Prop where
  status : e.exposureStatus ≠ .unclassified
  costWeight : remediationCostWeight.lookup (e.remediationCost.getD "") = some e.costWeight
  priorityScore : e.priorityScore =
    Binary64.round (priority (urgency e.toExposureRecord) e.costWeight) 2

theorem priced_of_price (h : price r = some e) : e.Priced ∧ e.toExposureRecord = r := by
  obtain ⟨hstatus, cost, hcost, rfl⟩ := price_eq_some_iff.mp h
  exact ⟨⟨hstatus, hcost, rfl⟩, rfl⟩

/-- **The rounded scores are in the order of the exact ones.** -/
theorem priorityScore_le_iff (h : e.Priced) (h' : e'.Priced) :
    e.priorityScore ≤ e'.priorityScore ↔ e.exactScore ≤ e'.exactScore := by
  rw [h.priorityScore, h'.priorityScore]
  exact round_priority_le_iff _ (urgency_mem _) _ (costWeight_mem h.costWeight) _ (urgency_mem _) _
    (costWeight_mem h'.costWeight)

/-- The quotient of an exposed target is greater than that of one that is less urgent and
costs no less. -/
theorem exactScore_lt (h : e.Priced) (hurgency : urgency e'.toExposureRecord <
    urgency e.toExposureRecord) (hcost : e.costWeight ≤ e'.costWeight) :
    e'.exactScore < e.exactScore := by
  have hpos : (0 : ℚ) < e.costWeight := by
    have hmem := costWeight_mem h.costWeight
    have : 0 < e.costWeight := by
      simp only [List.mem_cons, List.not_mem_nil, or_false] at hmem
      omega
    exact_mod_cast this
  have hcost' : (e.costWeight : ℚ) ≤ e'.costWeight := by exact_mod_cast hcost
  have hurgency' : (urgency e'.toExposureRecord : ℚ) < urgency e.toExposureRecord := by
    exact_mod_cast hurgency
  calc e'.exactScore ≤ (urgency e'.toExposureRecord : ℚ) / e.costWeight :=
        div_le_div_of_nonneg_left (Nat.cast_nonneg _) hpos hcost'
    _ < e.exactScore := div_lt_div_of_pos_right hurgency' hpos

end Score

/-! ### The laws -/

/-- **What is asked of a roadmap** of some records. -/
structure RoadmapLaws (records : List ExposureRecord) (roadmap : Roadmap) : Prop where
  /-- Nothing is lost, and nothing is there twice. -/
  partition : (roadmap.prioritized.map (·.toExposureRecord) ++ roadmap.needsInput).Perm records
  needsInput : roadmap.needsInput.Sublist records
  /-- The records that are ranked are those with a status and a cost that has a weight. -/
  priced : ∀ e ∈ roadmap.prioritized, e.Priced
  unpriced : ∀ r ∈ roadmap.needsInput, r.exposureStatus = .unclassified ∨
    remediationCostWeight.lookup (r.remediationCost.getD "") = none
  sorted : roadmap.prioritized.Pairwise fun e e' => e'.exactScore ≤ e.exactScore
  rounded : ∀ e ∈ roadmap.prioritized, ∀ e' ∈ roadmap.prioritized,
    e.priorityScore ≤ e'.priorityScore ↔ e.exactScore ≤ e'.exactScore
  /-- Equal scores are in the order of the records. -/
  stable : ∀ q, ((roadmap.prioritized.filter (·.exactScore = q)).map
    (·.toExposureRecord)).Sublist records
  /-- No exposed target is behind one that is less urgent and costs no less. -/
  exposed : roadmap.prioritized.Pairwise fun e e' => ¬ (e'.exposureStatus = .exposed ∧
    urgency e.toExposureRecord < urgency e'.toExposureRecord ∧ e'.costWeight ≤ e.costWeight)

section Laws

variable {records : List ExposureRecord}

/-- The records of the entries, and the others. -/
theorem partition_perm (records : List ExposureRecord) :
    ((records.filterMap price).map (·.toExposureRecord) ++
      records.filter fun r => (price r).isNone).Perm records := by
  induction records with
  | nil => exact .nil
  | cons r records ih =>
    cases hprice : price r with
    | none =>
      rw [List.filterMap_cons_none hprice, List.filter_cons_of_pos (by rw [hprice]; rfl)]
      exact List.perm_middle.trans (ih.cons r)
    | some e =>
      rw [List.filterMap_cons_some hprice, List.filter_cons_of_neg (by simp [hprice]),
        List.map_cons, (priced_of_price hprice).2]
      exact ih.cons r

/-- The records of the entries, in order. -/
theorem map_filterMap_price_sublist (records : List ExposureRecord) :
    ((records.filterMap price).map (·.toExposureRecord)).Sublist records := by
  induction records with
  | nil => exact .slnil
  | cons r records ih =>
    cases hprice : price r with
    | none =>
      rw [List.filterMap_cons_none hprice]
      exact ih.cons r
    | some e =>
      rw [List.filterMap_cons_some hprice, List.map_cons, (priced_of_price hprice).2]
      exact ih.cons_cons r

theorem priced_of_mem {e : RoadmapEntry} (h : e ∈ records.filterMap price) : e.Priced := by
  obtain ⟨r, -, hr⟩ := List.mem_filterMap.mp h
  exact (priced_of_price hr).1

/-- **The ranking is the one by the exact quotient.** -/
theorem rankBy_priorityScore :
    rankBy (·.priorityScore) (records.filterMap price) =
      rankBy (·.exactScore) (records.filterMap price) :=
  rankBy_congr fun _ h _ h' => priorityScore_le_iff (priced_of_mem h') (priced_of_mem h)

theorem roadmapLaws (records : List ExposureRecord) :
    RoadmapLaws records (buildRoadmap records) := by
  rw [buildRoadmap_eq, rankBy_priorityScore]
  have hpriced : ∀ e ∈ rankBy (·.exactScore) (records.filterMap price), e.Priced :=
    fun e he => priced_of_mem (mem_rankBy.mp he)
  have hsorted := rankBy_pairwise (·.exactScore) (records.filterMap price)
  exact {
    partition := (((rankBy_perm _ _).map _).append_right _).trans (partition_perm records)
    needsInput := List.filter_sublist
    priced := hpriced
    unpriced := fun r hr => price_isNone_iff.mp (List.mem_filter.mp hr).2
    sorted := hsorted
    rounded := fun e he e' he' => priorityScore_le_iff (hpriced e he) (hpriced e' he')
    stable := fun q => by
      rw [filter_rankBy]
      exact (List.filter_sublist.map _).trans (map_filterMap_price_sublist records)
    exposed := hsorted.imp_of_mem fun {e e'} he he' hle h => by
      have hlt := exactScore_lt (hpriced e' he') h.2.1 h.2.2
      exact absurd hle (not_le.mpr hlt) }

/-- **The roadmap loses and duplicates nothing, and ranks soundly.** -/
theorem buildRoadmap_sound (year : ℤ) (targets : List Target) (inputs : Dict String HndlEntry) :
    RoadmapLaws (buildExposure year targets inputs)
      (buildRoadmap (buildExposure year targets inputs)) :=
  roadmapLaws _

end Laws

end HybridTls

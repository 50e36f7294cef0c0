import HybridTls.Posture.Targets

/-!
# Mandates

`compute_compliance`, which checks every target against every mandate, and
`compliance_summary`, which counts.

A check looks at the texts of a target, and a check that raises counts as failed, so
a mandate could fail without anybody noticing why. Of the targets `load_targets`
returns no check raises, and the texts say what the cells said
(`HybridTls.passed_iff`); the mandates a target passes are therefore determined by
the four findings that determine its tier, and the two views agree, on each target
(`HybridTls.TierAgrees`) and in the counts (`HybridTls.tier_compliance`).
-/

namespace HybridTls

open Python

/-! ### Mandates -/

/-- What the checks use of a mandate. -/
structure Mandate where
  id : String
  name : String
  check : Dict String String → Py Bool

/-- `NIST FIPS 203 (ML-KEM)`. -/
def fips203 : Mandate where
  id := "fips203"
  name := "NIST FIPS 203 (ML-KEM)"
  check t := do
    return (← t.getItem "pqc") ≠ "No"

/-- `RBI Q-SAFE`. -/
def rbiQsafe : Mandate where
  id := "rbi_qsafe"
  name := "RBI Q-SAFE"
  check t := do
    if (← t.getItem "tls13") = "Yes" then return (← t.getItem "pqc") ≠ "No" else return false

/-- `EU DORA`. -/
def euDora : Mandate where
  id := "eu_dora"
  name := "EU DORA"
  check t := do
    if (← t.getItem "tls13") = "Yes" then
      if (← t.getItem "static_rsa") = "No" then return (← t.getItem "weak_cipher") = "No"
      else return false
    else return false

/-- `MANDATES`. -/
def mandates : List Mandate := [fips203, rbiQsafe, euDora]

@[simp] theorem id_fips203 : fips203.id = "fips203" := rfl

@[simp] theorem id_rbiQsafe : rbiQsafe.id = "rbi_qsafe" := rfl

@[simp] theorem id_euDora : euDora.id = "eu_dora" := rfl

/-! ### Checking -/

/-- The outcome of one mandate for one target. -/
structure MandateResult where
  id : String
  name : String
  passed : Bool
  deriving DecidableEq, Repr

/-- The outcomes for one target. -/
structure ComplianceResult where
  target : Option String
  mandates : List MandateResult
  deriving DecidableEq, Repr

/-- `bool(m["check"](t))`, where an exception is a failure. -/
def Mandate.passed (m : Mandate) (t : Dict String String) : Bool :=
  match m.check t with
  | .ok passed => passed
  | .error _ => false

/-- The outcomes for one target. -/
def complianceOf (t : Dict String String) : ComplianceResult where
  target := (t.lookup "target").or (t.lookup "vendor")
  mandates := mandates.map fun m => ⟨m.id, m.name, m.passed t⟩

/-- `compute_compliance`. -/
def computeCompliance (targets : List (Dict String String)) : List ComplianceResult :=
  targets.map complianceOf

/-- A target passes the mandate with an identifier. -/
def ComplianceResult.passes (c : ComplianceResult) (id : String) : Bool :=
  c.mandates.any fun mr => mr.id = id && mr.passed

/-! ### Counting -/

/-- The counts of a mandate. -/
structure Tally where
  pass : ℕ
  fail : ℕ
  deriving DecidableEq, Repr

/-- One more outcome. -/
def Tally.count (t : Tally) (passed : Bool) : Tally :=
  if passed then { t with pass := t.pass + 1 } else { t with fail := t.fail + 1 }

/-- The body of the loop of `compliance_summary`. -/
def countOutcome (perMandate : Dict String Tally) (mr : MandateResult) :
    Py (Dict String Tally) := do
  let t ← perMandate.getItem mr.id
  return perMandate.setItem mr.id (t.count mr.passed)

/-- `compliance_summary`, as far as it counts. -/
def complianceSummary (results : List ComplianceResult) : Py (Dict String Tally) :=
  (results.flatMap (·.mandates)).foldlM countOutcome (mandates.map fun m => (m.id, ⟨0, 0⟩))

section Count

/-- What some outcomes add to the counts of a mandate. -/
def Tally.after (t : Tally) (id : String) (outcomes : List MandateResult) : Tally where
  pass := t.pass + outcomes.countP fun mr => mr.id = id && mr.passed
  fail := t.fail + outcomes.countP fun mr => mr.id = id && !mr.passed

/-- **The step**: an outcome is counted with its own mandate, and with no other. -/
theorem countOutcome_returns {perMandate : Dict String Tally} {mr : MandateResult} {t : Tally}
    (h : perMandate.lookup mr.id = some t) :
    ∃ d, countOutcome perMandate mr = .ok d ∧
      ∀ id, d.lookup id = (perMandate.lookup id).map fun t => t.after id [mr] := by
  refine ⟨perMandate.setItem mr.id (t.count mr.passed), ?_, fun id => ?_⟩
  · simp [countOutcome, Dict.getItem, h]
  · rw [Dict.lookup_setItem]
    split
    next heq =>
      rw [heq, h]
      cases hp : mr.passed <;> simp [Tally.after, Tally.count, hp]
    next hne =>
      have hne' : mr.id ≠ id := Ne.symm hne
      simp [Tally.after, hne']

theorem Tally.after_append (t : Tally) (id : String) (o o' : List MandateResult) :
    (t.after id o).after id o' = t.after id (o ++ o') := by
  simp only [Tally.after, List.countP_append, Nat.add_assoc]

/-- **The run**: outcomes of known mandates are counted, each with its own. -/
theorem foldlM_countOutcome {outcomes : List MandateResult} {perMandate : Dict String Tally}
    (h : ∀ mr ∈ outcomes, (perMandate.lookup mr.id).isSome) :
    ∃ d, outcomes.foldlM countOutcome perMandate = .ok d ∧
      ∀ id, d.lookup id = (perMandate.lookup id).map fun t => t.after id outcomes := by
  induction outcomes generalizing perMandate with
  | nil => exact ⟨perMandate, rfl, fun id => by simp [Tally.after]⟩
  | cons mr outcomes ih =>
    obtain ⟨t, ht⟩ := Option.isSome_iff_exists.mp (h mr List.mem_cons_self)
    obtain ⟨d, hd, hlookup⟩ := countOutcome_returns ht
    have hkeys : ∀ mr' ∈ outcomes, (d.lookup mr'.id).isSome := fun mr' hmr' => by
      rw [hlookup, Option.isSome_map]
      exact h mr' (List.mem_cons_of_mem _ hmr')
    obtain ⟨d', hd', hlookup'⟩ := ih hkeys
    refine ⟨d', ?_, fun id => ?_⟩
    · rw [List.foldlM_cons, hd]
      exact hd'
    · rw [hlookup', hlookup, Option.map_map]
      exact congrArg (fun f => (perMandate.lookup id).map f)
        (funext fun t => t.after_append id [mr] outcomes)

/-- Each mandate has one outcome for a target. -/
theorem countP_complianceOf {m : Mandate} (hm : m ∈ mandates) (t : Dict String String)
    (b : Bool) :
    (complianceOf t).mandates.countP (fun mr => mr.id = m.id && mr.passed == b) =
      if m.passed t = b then 1 else 0 := by
  simp only [mandates, List.mem_cons, List.not_mem_nil, or_false] at hm
  rcases hm with rfl | rfl | rfl <;>
    simp [complianceOf, mandates, List.countP_cons]

theorem passes_complianceOf {m : Mandate} (hm : m ∈ mandates) (t : Dict String String) :
    (complianceOf t).passes m.id = m.passed t := by
  simp only [mandates, List.mem_cons, List.not_mem_nil, or_false] at hm
  rcases hm with rfl | rfl | rfl <;>
    simp [ComplianceResult.passes, complianceOf, mandates]

/-- **The counts of a mandate** are those of the targets that pass it and of the others. -/
theorem complianceSummary_returns (targets : List (Dict String String)) :
    ∃ perMandate, complianceSummary (computeCompliance targets) = .ok perMandate ∧
      ∀ m ∈ mandates, perMandate.getItem m.id =
        .ok ⟨targets.countP fun t => m.passed t, targets.countP fun t => !m.passed t⟩ := by
  have hids : ∀ mr ∈ (computeCompliance targets).flatMap (·.mandates),
      ((mandates.map fun m => (m.id, (⟨0, 0⟩ : Tally))).lookup mr.id).isSome := by
    intro mr hmr
    obtain ⟨c, hc, hmr⟩ := List.mem_flatMap.mp hmr
    obtain ⟨t, -, rfl⟩ := List.mem_map.mp hc
    simp only [complianceOf, mandates, List.map_cons, List.map_nil, List.mem_cons,
      List.not_mem_nil, or_false] at hmr
    rcases hmr with rfl | rfl | rfl <;> simp [mandates, Dict.lookup_cons]
  obtain ⟨d, hd, hlookup⟩ := foldlM_countOutcome hids
  refine ⟨d, hd, fun m hm => ?_⟩
  have hcount : ∀ b : Bool, ((computeCompliance targets).flatMap (·.mandates)).countP
      (fun mr => mr.id = m.id && mr.passed == b) = targets.countP fun t => m.passed t == b := by
    intro b
    clear hd hlookup hids
    induction targets with
    | nil => rfl
    | cons t targets ih =>
      rw [computeCompliance, List.map_cons, List.flatMap_cons, List.countP_append,
        countP_complianceOf hm, List.countP_cons]
      rw [computeCompliance] at ih
      rw [ih, Nat.add_comm]
      simp
  have hzero : (mandates.map fun m => (m.id, (⟨0, 0⟩ : Tally))).lookup m.id = some ⟨0, 0⟩ := by
    simp only [mandates, List.mem_cons, List.not_mem_nil, or_false] at hm
    rcases hm with rfl | rfl | rfl <;> simp [mandates, Dict.lookup_cons]
  rw [Dict.getItem, hlookup, hzero, Option.map_some, Tally.after]
  simpa using And.intro (hcount true) (hcount false)

end Count

/-! ### Both views of a target -/

/-- **The two views of a target agree**: no check raises, and the mandates passed
tell the tier. -/
structure TierAgrees (t : Target) (c : ComplianceResult) : Prop where
  returns : ∀ m ∈ mandates, ∃ passed, m.check t.dict = .ok passed
  euDora : c.passes "eu_dora" ↔ t.tier ≠ .tier3
  all : (∀ m ∈ mandates, c.passes m.id) ↔ t.tier = .tier1
  both : c.passes "fips203" ∧ c.passes "eu_dora" ↔ t.tier = .tier1
  rbiQsafe : c.passes "rbi_qsafe" → c.passes "fips203"

section Agree

variable {row : VendorRecord} {v : Vendor} {rows : List VendorRecord} {targets : List Target}

/-- What the checks find in a target. -/
theorem check_dict (t : Target) :
    fips203.check t.dict = .ok (t.pqc ≠ "No") ∧
      rbiQsafe.check t.dict = .ok (t.tls13 = "Yes" && t.pqc ≠ "No") ∧
      euDora.check t.dict =
        .ok (t.tls13 = "Yes" && t.staticRsa = "No" && t.weakCipher = "No") := by
  have hget : t.dict.getItem "tls13" = .ok t.tls13 ∧ t.dict.getItem "pqc" = .ok t.pqc ∧
      t.dict.getItem "static_rsa" = .ok t.staticRsa ∧
      t.dict.getItem "weak_cipher" = .ok t.weakCipher := by
    simp [Dict.getItem, Target.dict, Dict.lookup_cons]
  obtain ⟨htls, hpqc, hrsa, hweak⟩ := hget
  refine ⟨?_, ?_, ?_⟩
  · simp only [fips203, hpqc]
    rfl
  · simp only [HybridTls.rbiQsafe, htls, hpqc]
    by_cases h : t.tls13 = "Yes" <;> simp [h, bind, Except.bind]
  · simp only [HybridTls.euDora, htls, hrsa, hweak]
    by_cases h : t.tls13 = "Yes" <;> by_cases h' : t.staticRsa = "No" <;>
      simp [h, h', bind, Except.bind]

theorem passed_of_check {m : Mandate} {t : Dict String String} {passed : Bool}
    (h : m.check t = .ok passed) : m.passed t = passed := by
  rw [Mandate.passed, h]

/-- **The checks see the cells**: passing a mandate is a matter of what they say. -/
theorem passed_iff (h : loadVendor row = .ok v) :
    (fips203.passed v.toTarget.dict ↔ yn row.pqc) ∧
      (rbiQsafe.passed v.toTarget.dict ↔ yn row.tls13 ∧ yn row.pqc) ∧
      (euDora.passed v.toTarget.dict ↔
        yn row.tls13 ∧ yn row.staticRsa = false ∧ yn row.weakCipher = false) := by
  obtain ⟨-, htls, hpqc, hrsa, hweak, -⟩ := loadVendor_eq_ok h
  obtain ⟨hfips, hrbi, hdora⟩ := check_dict v.toTarget
  have htls' : v.toTarget.tls13 = yesNo (yn row.tls13) := htls
  have hpqc' : v.toTarget.pqc = pqcDisplay row.pqc row.pqcProvider := hpqc
  have hrsa' : v.toTarget.staticRsa = yesNo (yn row.staticRsa) := hrsa
  have hweak' : v.toTarget.weakCipher = yesNo (yn row.weakCipher) := hweak
  rw [passed_of_check hfips, passed_of_check hrbi, passed_of_check hdora, htls', hpqc', hrsa',
    hweak']
  simp [pqcDisplay_eq_no_iff, and_assoc]

/-- The two views of a target agree. -/
theorem tierAgrees (h : loadVendor row = .ok v) :
    TierAgrees v.toTarget (complianceOf v.toTarget.dict) := by
  have htier : v.toTarget.tier = deriveTier row := (loadVendor_eq_ok h).2.2.2.2.2
  obtain ⟨hthree, hone⟩ := deriveTier_cases row
  obtain ⟨hfips, hrbi, hdora⟩ := passed_iff h
  have hpasses : ∀ m ∈ mandates, (complianceOf v.toTarget.dict).passes m.id =
      m.passed v.toTarget.dict := fun m hm => passes_complianceOf hm _
  have hfips' := hpasses fips203 (by simp [mandates])
  have hrbi' := hpasses rbiQsafe (by simp [mandates])
  have hdora' := hpasses euDora (by simp [mandates])
  simp only [id_fips203, id_rbiQsafe, id_euDora] at hfips' hrbi' hdora'
  refine ⟨?_, ?_, ?_, ?_, ?_⟩
  · obtain ⟨h₁, h₂, h₃⟩ := check_dict v.toTarget
    simp only [mandates, List.forall_mem_cons, List.not_mem_nil, false_implies, implies_true,
      and_true]
    exact ⟨⟨_, h₁⟩, ⟨_, h₂⟩, ⟨_, h₃⟩⟩
  · rw [hdora', hdora, htier, ne_eq, hthree]
    cases yn row.tls13 <;> cases yn row.staticRsa <;> cases yn row.weakCipher <;> simp
  · simp only [mandates, List.forall_mem_cons, List.not_mem_nil, false_implies, implies_true,
      and_true, id_fips203, id_rbiQsafe, id_euDora]
    rw [hfips', hrbi', hdora', hfips, hrbi, hdora, htier, hone]
    cases yn row.tls13 <;> cases yn row.pqc <;> simp
  · rw [hfips', hdora', hfips, hdora, htier, hone]
    cases yn row.tls13 <;> cases yn row.pqc <;> simp
  · rw [hfips', hrbi', hfips, hrbi]
    exact fun h => h.2

/-- The two views agree on all targets. -/
theorem forall_tierAgrees (h : loadTargets rows = .ok targets) :
    List.Forall₂ TierAgrees targets (computeCompliance (targets.map Target.dict)) := by
  have hrows := loadTargets_eq_ok h
  clear h
  induction hrows with
  | nil => exact .nil
  | cons hrow _ ih =>
    obtain ⟨v, hv, rfl⟩ := hrow
    exact .cons (tierAgrees hv) ih

end Agree

/-- **The tiers and the mandates agree**, for all records whose cells are there,
whatever the cells say: on every target, and in the counts. -/
theorem tier_compliance {rows : List VendorRecord} (hrows : ∀ row ∈ rows, row.Filled) :
    ∃ targets, loadTargets rows = .ok targets ∧
      let results := computeCompliance (targets.map Target.dict)
      List.Forall₂ TierAgrees targets results ∧
      (∃ perMandate, complianceSummary results = .ok perMandate ∧
        (∀ m ∈ mandates, ∃ t, perMandate.getItem m.id = .ok t ∧
          t.pass + t.fail = targets.length) ∧
        ∃ t, perMandate.getItem "eu_dora" = .ok t ∧
          t.pass = (qviSummary targets).tier1 + (qviSummary targets).tier2) ∧
      results.countP (fun c => c.passes "fips203" && c.passes "eu_dora") =
        (qviSummary targets).tier1 ∧
      (qviSummary targets).tier1 + (qviSummary targets).tier2 + (qviSummary targets).tier3 =
        (qviSummary targets).total ∧
      (qviSummary targets).total = targets.length ∧
      0 ≤ (qviSummary targets).pqReadyPct ∧ (qviSummary targets).pqReadyPct ≤ 100 := by
  obtain ⟨targets, htargets⟩ := exists_loadTargets hrows
  have hagree := forall_tierAgrees htargets
  obtain ⟨perMandate, hsummary, hcounts⟩ := complianceSummary_returns (targets.map Target.dict)
  have htotal := qviSummary_total targets
  refine ⟨targets, htargets, hagree, ⟨perMandate, hsummary, fun m hm => ?_, ?_⟩, ?_, htotal, rfl,
    qviSummary_pqReadyPct targets⟩
  · refine ⟨_, hcounts m hm, ?_⟩
    rw [← List.length_map (f := Target.dict),
      List.length_eq_countP_add_countP fun t => m.passed t]
    simp
  · refine ⟨_, hcounts euDora (by simp [mandates]), ?_⟩
    -- the targets that pass are those outside the third tier
    have hpass : targets.countP (fun t => t.tier ≠ .tier3) =
        (targets.map Target.dict).countP fun t => euDora.passed t := by
      rw [countP_eq_of_forall₂ hagree (q := fun c => c.passes "eu_dora") fun t c h => by
        simp [h.euDora], computeCompliance, List.countP_map]
      exact List.countP_congr fun t _ => by
        simp [← passes_complianceOf (m := euDora) (by simp [mandates])]
    have hthree : (qviSummary targets).tier3 + targets.countP (fun t => t.tier ≠ .tier3) =
        targets.length := by
      rw [List.length_eq_countP_add_countP fun t : Target => decide (t.tier = .tier3)]
      simp [qviSummary, tierCounts_eq]
    simp only
    have hlen : (qviSummary targets).total = targets.length := rfl
    omega
  · have hboth := countP_eq_of_forall₂ hagree (p := fun t => t.tier = .tier1)
      (q := fun c => c.passes "fips203" && c.passes "eu_dora") fun t c h => by simp [← h.both]
    rw [← hboth]
    simp [qviSummary, tierCounts_eq]

/-- A vendor that has migrated, and one that nothing is known of. -/
def twoVendors : List VendorRecord :=
  [⟨some "Bank", some "yes", some "Yes (X25519MLKEM768)", some "", some "no", some "no",
      some "X25519MLKEM768, X25519"⟩,
    ⟨some "Broker", some "", some "", some "", some "", some "", some ""⟩]

/-- Of these two one is ready. -/
theorem tier_compliance_twoVendors :
    ∃ targets, loadTargets twoVendors = .ok targets ∧
      (computeCompliance (targets.map Target.dict)).countP
        (fun c => c.passes "fips203" && c.passes "eu_dora") = (qviSummary targets).tier1 := by
  have hfilled : ∀ row ∈ twoVendors, row.Filled := by
    intro row hrow
    simp only [twoVendors, List.mem_cons, List.not_mem_nil, or_false] at hrow
    rcases hrow with rfl | rfl <;> exact ⟨rfl, rfl, rfl, rfl, rfl, rfl, rfl⟩
  obtain ⟨targets, htargets, -, -, hcount, -⟩ := tier_compliance hfilled
  exact ⟨targets, htargets, hcount⟩

end HybridTls

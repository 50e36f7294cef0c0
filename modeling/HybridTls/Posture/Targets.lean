import HybridTls.Lib.Binary64
import HybridTls.Posture.Vendors

/-!
# The scan targets

`load_targets`, which relabels the vendors, and `qvi_summary`, which counts the
targets of each tier and gives the share of the first as a whole percentage.

The percentage is computed in floating point, a quotient, a product and a rounding
after the other; it lies between 0 and 100 all the same
(`HybridTls.qviSummary_pqReadyPct`).
-/

namespace HybridTls

open Python

/-- `QVI_TIER_LABELS`. -/
def Tier.qviLabel : Tier → String
  | .tier1 => "QVI Tier 1 — PQ Ready"
  | .tier2 => "QVI Tier 2 — Conditional"
  | .tier3 => "QVI Tier 3 — Critical"

/-- A target. -/
structure Target extends Vendor where
  target : String
  qviTierLabel : String
  deriving DecidableEq, Repr

/-- The target of a vendor. -/
def Vendor.toTarget (row : Vendor) : Target :=
  { row with
    target := row.vendor
    qviTierLabel := row.tier.qviLabel }

/-- `load_targets`. -/
def loadTargets (rows : List VendorRecord) : Py (List Target) := do
  return (← loadVendors rows).map Vendor.toTarget

/-- The dictionary that a target is. -/
def Target.dict (t : Target) : Dict String String :=
  [("vendor", t.vendor), ("tls13", t.tls13), ("pqc", t.pqc), ("static_rsa", t.staticRsa),
    ("weak_cipher", t.weakCipher), ("curves", t.curves), ("tier_class", t.tier.text),
    ("tier_label", t.tier.label), ("target", t.target), ("qvi_tier_label", t.qviTierLabel)]

/-- What `qvi_summary` returns. -/
structure QviSummary where
  total : ℕ
  tier1 : ℕ
  tier2 : ℕ
  tier3 : ℕ
  pqReadyPct : ℤ
  deriving DecidableEq, Repr

/-- The loop of `qvi_summary`. -/
def tierCounts (targets : List Target) : Tier → ℕ :=
  targets.foldl (fun counts t tier => if tier = t.tier then counts tier + 1 else counts tier)
    fun _ => 0

/-- `qvi_summary`. -/
def qviSummary (targets : List Target) : QviSummary where
  total := targets.length
  tier1 := tierCounts targets .tier1
  tier2 := tierCounts targets .tier2
  tier3 := tierCounts targets .tier3
  pqReadyPct :=
    if targets.length ≠ 0 then
      Binary64.roundEven
        (Binary64.fl (Binary64.fl ((tierCounts targets .tier1 : ℚ) / targets.length) * 100))
    else 0

section Summary

variable {rows : List VendorRecord} {targets : List Target}

/-- **The targets are the records**, one by one, each with the cells of its own. -/
theorem loadTargets_eq_ok (h : loadTargets rows = .ok targets) :
    List.Forall₂ (fun row t => ∃ v, loadVendor row = .ok v ∧ t = v.toTarget) rows targets := by
  simp only [loadTargets, bind_eq_ok, pure_eq_ok, Except.ok.injEq] at h
  obtain ⟨vendors, hvendors, rfl⟩ := h
  rw [List.forall₂_map_right_iff]
  exact (mapM_eq_ok.mp hvendors).imp fun _ v hv => ⟨v, hv, rfl⟩

/-- Records without a missing cell are loaded. -/
theorem exists_loadTargets (h : ∀ row ∈ rows, row.Filled) :
    ∃ targets, loadTargets rows = .ok targets := by
  obtain ⟨vendors, hvendors⟩ := exists_mapM fun row hrow => exists_loadVendor (h row hrow)
  rw [loadTargets, loadVendors, hvendors]
  exact ⟨_, rfl⟩

theorem tierCounts_eq (targets : List Target) (tier : Tier) :
    tierCounts targets tier = targets.countP fun t => t.tier = tier := by
  -- counts that have been made before are added
  suffices h : ∀ counts : Tier → ℕ,
      targets.foldl (fun counts t tier => if tier = t.tier then counts tier + 1 else counts tier)
        counts tier = counts tier + targets.countP fun t => t.tier = tier by
    rw [tierCounts, h, Nat.zero_add]
  induction targets with
  | nil => exact fun counts => rfl
  | cons t targets ih =>
    intro counts
    rw [List.foldl_cons, ih, List.countP_cons]
    by_cases htier : t.tier = tier
    · simp only [htier, if_true, decide_true]
      omega
    · simp [htier, Ne.symm htier]

/-- Every target has one tier. -/
theorem qviSummary_total (targets : List Target) :
    (qviSummary targets).tier1 + (qviSummary targets).tier2 + (qviSummary targets).tier3 =
      (qviSummary targets).total := by
  simp only [qviSummary, tierCounts_eq]
  induction targets with
  | nil => rfl
  | cons t targets ih =>
    simp only [List.countP_cons, List.length_cons]
    cases t.tier <;> simp <;> omega

/-- **The percentage is one.** -/
theorem qviSummary_pqReadyPct (targets : List Target) :
    0 ≤ (qviSummary targets).pqReadyPct ∧ (qviSummary targets).pqReadyPct ≤ 100 := by
  have hcount : (qviSummary targets).tier1 ≤ targets.length := by
    have htotal := qviSummary_total targets
    simp only [qviSummary] at htotal ⊢
    omega
  simp only [qviSummary] at hcount ⊢
  split
  next hne =>
    have hlen : (0 : ℚ) < targets.length := by exact_mod_cast Nat.pos_of_ne_zero hne
    have hshare₀ : (0 : ℚ) ≤ (tierCounts targets .tier1 : ℚ) / targets.length :=
      div_nonneg (Nat.cast_nonneg _) hlen.le
    have hshare : (tierCounts targets .tier1 : ℚ) / targets.length ≤ (1 : ℕ) := by
      rw [Nat.cast_one, div_le_one hlen]
      exact_mod_cast hcount
    -- each operation is rounded, and none leaves its range
    have hquot₀ := Binary64.fl_nonneg hshare₀
    have hquot := Binary64.fl_le hshare₀ hshare (by norm_num)
    rw [Nat.cast_one] at hquot
    have hprod₀ := Binary64.fl_nonneg (mul_nonneg hquot₀ (by norm_num : (0 : ℚ) ≤ 100))
    have hprod := Binary64.fl_le (B := 100) (mul_nonneg hquot₀ (by norm_num : (0 : ℚ) ≤ 100))
      (by push_cast; linarith) (by norm_num)
    exact ⟨Binary64.le_roundEven (by exact_mod_cast hprod₀),
      Binary64.roundEven_le (by exact_mod_cast hprod)⟩
  next => exact ⟨Int.le_refl 0, by omega⟩

end Summary

end HybridTls

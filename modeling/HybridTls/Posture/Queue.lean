import HybridTls.Lib.Ranking
import HybridTls.Posture.Bands
import Mathlib.Data.List.Permutation

/-!
# The remediation queue

`score_page`, which shows the rows of `load_scored` as they are, or, as a queue, sorted by
how much of the total can be had for how much work.

The rows are sorted twice, by the total and then by the ratio. The sorts are stable, so
that rows with the same ratio stay in the order of their totals, and rows with the same
total too in that of the records. The ratio is rounded to one decimal; but a ratio is a
multiple of a sixth, and so two different ones are farther apart than rounding moves them
(`HybridTls.ratio_le_iff`). A row without work has the ratio 0, and every other row has a
greater one, because no total is 0 (`HybridTls.ratio_pos`).
-/

namespace HybridTls

open Python Raising Ranking

/-! ### The page -/

/-- What `score_page` passes to its template, but for the context of every page. -/
structure ScorePage where
  activeNav : String
  title : String
  targets : List ScoredRow
  s : ScoreSummary
  view : Option String

/-- `score_page`, of the rows of `load_scored`. -/
def scorePage (view : Option String) (rows : List ScoredRow) : ScorePage :=
  let rows := if view = some "queue" then rankBy (·.ratio) rows else rows
  { activeNav := if view = some "queue" then "remediation" else "score"
    title := if view = some "queue" then "Remediation Queue" else "Quantum Risk Score"
    targets := rows
    s := scoreSummary rows
    view }

/-! ### Ratios -/

/-- What there is to gain for the work of a row, exactly. -/
def ScoredRow.exactRatio (r : ScoredRow) : ℚ := (r.total : ℚ) / r.effort

section Ratio

variable {r r' : ScoredRow}

/-- No row has the total 0. -/
theorem ScoredRow.Consistent.total_pos (hr : r.Consistent) : 0 < r.total := by
  have hf1 : 0 < r.f1 := by
    rw [hr.f1]
    cases r.tls13 <;> cases r.pqc <;> decide
  have htotal := hr.total
  omega

theorem ScoredRow.Consistent.effort_le (hr : r.Consistent) : r.effort ≤ 3 := by
  rw [hr.effort]
  cases r.tls13 <;> cases r.pqc <;> cases r.staticRsa <;> decide

/-- A ratio is the rounded exact one. -/
theorem ScoredRow.Consistent.ratio_eq (hr : r.Consistent) (h : 0 < r.effort) :
    r.ratio = Binary64.round (Binary64.fl r.exactRatio) 1 := by
  rw [hr.ratio, HybridTls.ratio, if_pos h.ne', Binary64.round, ScoredRow.exactRatio, pow_one]

/-- **Rounding to one decimal** moves a number up to 100 by less than a twelfth. -/
theorem abs_round_fl_sub_lt {q : ℚ} (h₀ : 0 ≤ q) (h : q ≤ 100) :
    |Binary64.round (Binary64.fl q) 1 - q| < 1 / 6 / 2 := by
  have hlimit : (100 : ℚ) < 2 ^ (7 : ℤ) := by norm_num
  have hquot := Binary64.abs_fl_sub_le h₀ (h.trans_lt hlimit) (by norm_num)
  have hx₀ := Binary64.fl_nonneg h₀
  have hx : Binary64.fl q ≤ (100 : ℕ) := Binary64.fl_le h₀ (by simpa using h) (by norm_num)
  rw [Binary64.round, pow_one]
  generalize Binary64.fl q = x at hquot hx₀ hx
  -- to the nearest tenth, and to the nearest number again
  have htenth := Binary64.abs_roundEven_sub_le (x * 10)
  have hy₀ : (0 : ℚ) ≤ (Binary64.roundEven (x * 10) : ℚ) / 10 := by
    have hround : 0 ≤ Binary64.roundEven (x * 10) :=
      Binary64.le_roundEven (by push_cast; linarith)
    exact div_nonneg (by exact_mod_cast hround) (by norm_num)
  have hy : (Binary64.roundEven (x * 10) : ℚ) / 10 ≤ 100 := by
    have hround : Binary64.roundEven (x * 10) ≤ 1000 :=
      Binary64.roundEven_le (by push_cast at hx ⊢; linarith)
    have hcast : (Binary64.roundEven (x * 10) : ℚ) ≤ 1000 := by exact_mod_cast hround
    linarith
  have hlast := Binary64.abs_fl_sub_le hy₀ (hy.trans_lt hlimit) (by norm_num)
  rw [abs_le] at hquot htenth hlast
  rw [abs_lt]
  norm_num at hquot htenth hlast ⊢
  constructor <;> linarith

/-- An exact ratio is a multiple of a sixth. -/
theorem ScoredRow.Consistent.exactRatio_eq (hr : r.Consistent) (h : 0 < r.effort) :
    ∃ n : ℤ, r.exactRatio = n / 6 := by
  have heffort : r.effort = 1 ∨ r.effort = 2 ∨ r.effort = 3 := by
    have hle := hr.effort_le
    omega
  rw [ScoredRow.exactRatio]
  rcases heffort with heffort | heffort | heffort
  · exact ⟨6 * r.total, by rw [heffort]; push_cast; ring⟩
  · exact ⟨3 * r.total, by rw [heffort]; push_cast; ring⟩
  · exact ⟨2 * r.total, by rw [heffort]; push_cast; ring⟩

/-- Different ratios are at least a sixth apart. -/
theorem exactRatio_gap (hr : r.Consistent) (hr' : r'.Consistent) (h : 0 < r.effort)
    (h' : 0 < r'.effort) (hne : r.exactRatio ≠ r'.exactRatio) :
    1 / 6 ≤ |r.exactRatio - r'.exactRatio| := by
  obtain ⟨n, hn⟩ := hr.exactRatio_eq h
  obtain ⟨n', hn'⟩ := hr'.exactRatio_eq h'
  rw [hn, hn'] at hne ⊢
  have hone : 1 ≤ |n - n'| := Int.one_le_abs fun hzero => hne (by rw [sub_eq_zero.mp hzero])
  have hcast : (1 : ℚ) ≤ |(n : ℚ) - n'| := by exact_mod_cast hone
  rw [← sub_div, abs_div, abs_of_pos (by norm_num : (0 : ℚ) < 6)]
  linarith

theorem ScoredRow.Consistent.exactRatio_mem (hr : r.Consistent) (h : 0 < r.effort) :
    0 < r.exactRatio ∧ r.exactRatio ≤ 100 := by
  have htotal : (r.total : ℚ) ≤ 100 := by exact_mod_cast hr.banded.total
  have hpos : (0 : ℚ) < r.total := by exact_mod_cast hr.total_pos
  have heffort : (1 : ℚ) ≤ r.effort := by exact_mod_cast h
  exact ⟨div_pos hpos (by linarith), (div_le_self hpos.le heffort).trans htotal⟩

/-- **Rounding keeps the order** of the ratios. -/
theorem ratio_le_iff (hr : r.Consistent) (hr' : r'.Consistent) (h : 0 < r.effort)
    (h' : 0 < r'.effort) : r.ratio ≤ r'.ratio ↔ r.exactRatio ≤ r'.exactRatio := by
  obtain ⟨hpos, hle⟩ := hr.exactRatio_mem h
  obtain ⟨hpos', hle'⟩ := hr'.exactRatio_mem h'
  rw [hr.ratio_eq h, hr'.ratio_eq h']
  exact Binary64.le_iff_le_of_abs_sub_lt (abs_round_fl_sub_lt hpos.le hle)
    (abs_round_fl_sub_lt hpos'.le hle') (fun heq => by rw [heq]) (exactRatio_gap hr hr' h h')

/-- **There is something to gain for any work.** -/
theorem ratio_pos (hr : r.Consistent) (h : 0 < r.effort) : 0 < r.ratio := by
  obtain ⟨hpos, hle⟩ := hr.exactRatio_mem h
  have hround := (abs_lt.mp (abs_round_fl_sub_lt hpos.le hle)).1
  -- the least multiple of a sixth is farther from 0 than rounding moves it
  obtain ⟨n, hn⟩ := hr.exactRatio_eq h
  have hone : 1 ≤ n := by
    rw [hn] at hpos
    have hn₀ : (0 : ℚ) < n := by linarith
    exact_mod_cast hn₀
  have hcast : (1 : ℚ) ≤ n := by exact_mod_cast hone
  rw [hr.ratio_eq h]
  linarith

theorem ratio_eq_zero (hr : r.Consistent) (h : r.effort = 0) : r.ratio = 0 := by
  rw [hr.ratio, HybridTls.ratio, if_neg (by simpa using h)]

end Ratio

/-! ### The queue -/

/-- **What is asked of a queue**: of rows that have been scored in the order of the records
and are returned in another one, by `load_scored`. -/
structure QueueLaws (scored out queue : List ScoredRow) : Prop where
  /-- Every row that is returned is in the queue, once. -/
  perm : queue.Perm out
  /-- Rows that take work are before those that take none, and have falling ratios. -/
  sorted : queue.Pairwise fun r r' =>
    0 < r'.effort → 0 < r.effort ∧ r'.exactRatio ≤ r.exactRatio
  rounded : ∀ r ∈ queue, ∀ r' ∈ queue, 0 < r.effort → 0 < r'.effort →
    (r.ratio ≤ r'.ratio ↔ r.exactRatio ≤ r'.exactRatio)
  /-- Of rows with the same ratio, the one with the greater total is first. -/
  totals : queue.Pairwise fun r r' => 0 < r.effort → 0 < r'.effort →
    r.exactRatio = r'.exactRatio → r'.total ≤ r.total
  /-- Rows with the same ratio and the same total are in the order of the records. -/
  stable : ∀ q total,
    (queue.filter fun r => 0 < r.effort ∧ r.exactRatio = q ∧ r.total = total) =
      scored.filter fun r => 0 < r.effort ∧ r.exactRatio = q ∧ r.total = total

section Laws

variable {scored : List ScoredRow}

theorem queueLaws (h : ∀ r ∈ scored, r.Consistent) :
    QueueLaws scored (ranked scored) (rankBy (·.ratio) (ranked scored)) := by
  have hranked : ranked scored = rankBy (·.total) scored := rfl
  have hmem : ∀ r ∈ rankBy (·.ratio) (ranked scored), r.Consistent := fun r hr =>
    h r (mem_rankBy.mp (hranked ▸ mem_rankBy.mp hr))
  have htwice := rankBy_rankBy_pairwise (·.ratio) (·.total) scored
  exact {
    perm := rankBy_perm _ _
    sorted := (rankBy_pairwise (·.ratio) (ranked scored)).imp_of_mem fun hr hr' hle hwork' => by
      have hpos := (ratio_pos (hmem _ hr') hwork').trans_le hle
      have hwork := Nat.pos_of_ne_zero fun hzero =>
        absurd (ratio_eq_zero (hmem _ hr) hzero) hpos.ne'
      exact ⟨hwork, (ratio_le_iff (hmem _ hr') (hmem _ hr) hwork' hwork).mp hle⟩
    rounded := fun r hr r' hr' => ratio_le_iff (hmem r hr) (hmem r' hr')
    totals := (hranked ▸ htwice).imp_of_mem fun hr hr' hle hwork hwork' heq => by
      refine hle ?_
      rw [(hmem _ hr).ratio_eq hwork, (hmem _ hr').ratio_eq hwork', heq]
    stable := fun q total => by
      -- the ratio and the total of the rows chosen are known, and each is a key
      rw [filter_rankBy_of_key (k := Binary64.round (Binary64.fl q) 1), hranked,
        filter_rankBy_of_key (k := total)]
      · intro r hr hchosen
        simp only [Bool.decide_and, Bool.and_eq_true, decide_eq_true_eq] at hchosen
        exact hchosen.2.2
      · intro r hr hchosen
        simp only [Bool.decide_and, Bool.and_eq_true, decide_eq_true_eq] at hchosen
        rw [(h r (mem_rankBy.mp (hranked ▸ hr))).ratio_eq hchosen.1, hchosen.2.1] }

end Laws

/-- **The remediation queue is a correctly ordered permutation** of the rows that
`load_scored` returns. -/
theorem queue_sound {rows : List VendorRecord} {scanFile full : ScanFile}
    {hndl : Dict String HndlInput} {cache cache' : Option CertMap} {out : List ScoredRow}
    (h : loadScored rows scanFile full hndl cache = .ok out cache') :
    ∃ scored, List.Forall₂ (fun row r => r.target = row.name ∧ r.Consistent) rows scored ∧
      QueueLaws scored out (scorePage (some "queue") out).targets := by
  obtain ⟨scored, rfl, hscored⟩ := loadScored_rows h
  have hall := ((List.forall₂_and_left _ _).mp (hscored.flip.imp fun _ _ h => And.symm h)).1
  exact ⟨scored, hscored, queueLaws hall⟩

/-- The queue of a bank that has migrated and a shop that has not: the shop is first. -/
theorem queue_sound_migrated : ∃ out cache,
    loadScored bankAndShop bankAndShopScan .missing [] none = .ok out cache ∧
      (scorePage (some "queue") out).targets.map (·.target) = ["Shop", "Bank"] := by
  obtain ⟨out, cache, h⟩ : ∃ out cache, loadScored bankAndShop bankAndShopScan .missing [] none =
      .ok out cache := loadScored_returns certs_bankAndShop filled_bankAndShop textual_bankAndShop
  obtain ⟨scored, -, hqueue⟩ := queue_sound h
  obtain ⟨bank, shop, hout, hbank, hshop, -, hnone, hwork⟩ := scored_bankAndShop h
  have hperm : (scorePage (some "queue") out).targets.Perm [bank, shop] :=
    hqueue.perm.trans (hout ▸ List.perm_insertionSort _ _)
  refine ⟨out, cache, h, ?_⟩
  rcases List.perm_pair.mp hperm with htargets | htargets
  · -- a bank without work would be before a shop with some
    have hsorted := hqueue.sorted
    rw [htargets, List.pairwise_pair] at hsorted
    have hpos := (hsorted (by omega)).1
    omega
  · rw [htargets, List.map_cons, List.map_cons, hbank, hshop, List.map_nil]

end HybridTls
